namespace NullContract.CharName

def mathematicsNames : String :=
    ":1CF00aZNAMENNY_COMBINING_MARK_GORAZDO_NIZKO_S_KRYZHEM_ON_LEFTdNIZKO_S_KRYZHEM_ON_LEFTdTSATA_ON_LEFT
    dGORAZDO_NIZKO_ON_LEFTdNIZKO_ON_LEFTdSREDNE_ON_LEFTdMALO_POVYSHE_ON_LEFTdPOVYSHE_ON_LEFTdVYSOKO_ON_LEFT
    dMALO_POVYSHE_S_KHOKHLOM_ON_LEFTdPOVYSHE_S_KHOKHLOM_ON_LEFTdVYSOKO_S_KHOKHLOM_ON_LEFT
    dGORAZDO_NIZKO_S_KRYZHEM_ON_RIGHTdNIZKO_S_KRYZHEM_ON_RIGHTdTSATA_ON_RIGHTdGORAZDO_NIZKO_ON_RIGHTdNIZKO_ON_RIGHT
    dSREDNE_ON_RIGHTdMALO_POVYSHE_ON_RIGHTdPOVYSHE_ON_RIGHTdVYSOKO_ON_RIGHTdMALO_POVYSHE_S_KHOKHLOM_ON_RIGHT
    dPOVYSHE_S_KHOKHLOM_ON_RIGHTdVYSOKO_S_KHOKHLOM_ON_RIGHTdTSATA_S_KRYZHEMdMALO_POVYSHE_S_KRYZHEM
    dSTRANNO_MALO_POVYSHEdPOVYSHE_S_KRYZHEMeSTRANNOdVYSOKO_S_KRYZHEMdMALO_POVYSHE_STRANNOdGORAZDO_VYSOKOdZELOdON
    dRAVNOdTIKHAYAdBORZAYAdUDARKAdPODVERTKAdLOMKAdKUPNAYAdKACHKAdZEVOKdSKOBAdRAZSEKAdKRYZH_ON_LEFT
    :1CF30cTONAL_RANGE_MARK_MRACHNOfSVETLOfTRESVETLOcMARK_ZADERZHKAdDEMESTVENNY_ZADERZHKAdOTSECHKAdPODCHASHIE
    eWITH_VERTICAL_STROKEdCHASHKAePOLNAYAdOBLACHKOdSOROCHYA_NOZHKAdTOCHKAdDVOETOCHIEcATTACHING_VERTICAL_OMET
    cMARK_CURVED_OMETdKRYZHcLOWER_TONAL_RANGE_INDICATORbPRIZNAK_MODIFIER_LEVEL-2dLEVEL-3dDIRECTION_FLIPdKRYZHdROG
    :1CF50bNEUME_KRYUKdTIKHYcPARAKLITcDVA_V_CHELNUcKLYUCHcZANOZHEKcSTOPITSAdS_OCHKOMcPEREVODKAdNEPOSTOYANNAYA
    cSTOPITSA_WITH_SOROCHYA_NOZHKAcCHELYUSTKAcPALKAcZAPYATAYAcGOLUBCHIK_BORZYdTIKHYdMRACHNYdSVETLYdTRESVETLY
    cVRAKHIYA_PROSTAYAdMRACHNAYAdSVETLAYAdTRESVETLAYAdKLYUCHEVAYA_PROSTAYAeMRACHNAYAeSVETLAYAeTRESVETLAYA
    cDOUBLE_ZAPYATAYAcREVERSED_CHELYUSTKAcDERBITSAcKHAMILOcCHASHKAcPODCHASHIEcSKAMEYTSA_MRACHNAYAdSVETLAYA
    dTRESVETLAYAdTIKHAYAcDEMESTVENNY_KLYUCHcSKAMEYTSA_KLYUCHEVAYA_SVETLAYAdKLYUCHENEPOSTOYANNAYAdKLYUCHEVAYA_TIKHAYA
    dDVOECHELNAYA_PROSTAYAeSVETLAYAeNEPOSTOYANNAYAeKLYUCHEVAYAcSLOZHITIEdS_ZAPYATOYdZAKRYTOEdS_KRYZHEMcKRYZHcROG
    cFITAcKOBYLAcZMEYTSAcSTATYAdS_ZAPYATOYeKRYZHEMeZAPYATOY_I_KRYZHEMeKRYZHEM_I_ZAPYATOYdZAKRYTAYAeS_ZAPYATOY
    dS_ROGOMeDVUMYA_ZAPYATYMIeZAPYATOY_I_PODCHASHIEMcPOLKULIZMYcSTATYA_NEPOSTOYANNAYAcSTRELA_PROSTAYAdMRACHNOTIKHAYA
    dKRYZHEVAYAdPOLUPOVODNAYAdPOVODNAYAdNEPOSTOYANNAYAdKLYUCHEPOVODNAYAdKLYUCHENEPOSTOYANNAYAdTIKHAYA_PUTNAYA
    dDVOECHELNAYAdDVOECHELNOKRYZHEVAYAdDVOECHELNOPOVODNAYAdDVOECHELNAYA_KLYUCHEVAYAdDVOECHELNOPOVODNAYA_KLYUCHEVAYA
    dGROMNAYA_WITH_SINGLE_ZAPYATAYAdGROMOPOVODNAYA_WITH_SINGLE_ZAPYATAYAdGROMNAYAdGROMOPOVODNAYA
    eWITH_DOUBLE_ZAPYATAYAdGROMOKRYZHEVAYAePOVODNAYAcMECHIKdPOVODNYdKLYUCHEVOYdKLYUCHEPOVODNYdKLYUCHENEPOSTOYANNY
    cSTRELA_TRYASOGLASNAYAdTRYASOPOVODNAYAdTRYASOSTRELNAYAcOSOKAdSVETLAYAdTRESVETLAYAdKRYUKOVAYA_SVETLAYA
    dKLYUCHEVAYA_SVETLAYAeNEPOSTOYANNAYAcSTRELA_KRYUKOVAYAePOVODNAYAeGROMNAYA_WITH_SINGLE_ZAPYATAYA
    eGROMOPOVODNAYA_WITH_SINGLE_ZAPYATAYAeGROMNAYAeGROMOPOVODNAYAfWITH_DOUBLE_ZAPYATAYAeGROMOKRYZHEVAYAfPOVODNAYA
    eTRYASKAcKUFISMAcOBLAKOcDUDAcNEMKAcPAUK:1D000aBYZANTINE_MUSICAL_SYMBOL_PSILIdDASEIAdPERISPOMENI
    dOXEIA_EKFONITIKONeDIPLIdVAREIA_EKFONITIKONeDIPLIdKATHISTIdSYRMATIKIdPARAKLITIKIdYPOKRISISeDIPLIdKREMASTI
    dAPESO_EKFONITIKONdEXO_EKFONITIKONdTELEIAdKENTIMATAdAPOSTROFOSeDIPLIdSYNEVMAdTHITAdOLIGON_ARCHAION
    dGORGON_ARCHAIONdPSILONdCHAMILONdVATHYdISON_ARCHAIONdKENTIMA_ARCHAIONdKENTIMATA_ARCHAIONdSAXIMATAdPARICHON
    dSTAVROS_APODEXIAdOXEIAI_ARCHAIONdVAREIAI_ARCHAIONdAPODERMA_ARCHAIONdAPOTHEMAdKLASMAdREVMAdPIASMA_ARCHAION
    dTINAGMAdANATRICHISMAdSEISMAdSYNAGMA_ARCHAIONeMETA_STAVROUdOYRANISMA_ARCHAIONdTHEMAdLEMOIdDYOdTRIAdTESSERA
    dKRATIMATAdAPESO_EXO_NEOdFTHORA_ARCHAIONdIMIFTHORAdTROMIKON_ARCHAIONdKATAVA_TROMIKONdPELASTONdPSIFISTONdKONTEVMA
    dCHOREVMA_ARCHAIONdRAPISMAdPARAKALESMA_ARCHAIONdPARAKLITIKI_ARCHAIONdICHADINdNANAdPETASMAdKONTEVMA_ALLO
    dTROMIKON_ALLOdSTRAGGISMATAdGRONTHISMATAdISON_NEOdOLIGON_NEOdOXEIA_NEOdPETASTIdKOUFISMAdPETASTOKOUFISMA
    dKRATIMOKOUFISMAdPELASTON_NEOdKENTIMATA_NEO_ANOdKENTIMA_NEO_ANOdYPSILIdAPOSTROFOS_NEOdAPOSTROFOI_SYNDESMOS_NEO
    dYPORROIdKRATIMOYPORROONdELAFRONdCHAMILIdMIKRON_ISONdVAREIA_NEOdPIASMA_NEOdPSIFISTON_NEOdOMALONdANTIKENOMA
    dLYGISMAdPARAKLITIKI_NEOdPARAKALESMA_NEOdETERON_PARAKALESMAdKYLISMAdANTIKENOKYLISMAdTROMIKON_NEOdEKSTREPTON
    dSYNAGMA_NEOdSYRMAdCHOREVMA_NEOdEPEGERMAdSEISMA_NEOdXIRON_KLASMAdTROMIKOPSIFISTONdPSIFISTOLYGISMAdTROMIKOLYGISMA
    dTROMIKOPARAKALESMAdPSIFISTOPARAKALESMAdTROMIKOSYNAGMAdPSIFISTOSYNAGMAdGORGOSYNTHETONdARGOSYNTHETON
    dETERON_ARGOSYNTHETONdOYRANISMA_NEOdTHEMATISMOS_ESOeEXOdTHEMA_APLOUNdTHES_KAI_APOTHESdKATAVASMAdENDOFONON
    dYFEN_KATOeANOdSTAVROSdKLASMA_ANOdDIPLI_ARCHAIONdKRATIMA_ARCHAIONeALLOeNEOdAPODERMA_NEOdAPLIdDIPLIdTRIPLI
    dTETRAPLIdKORONISdLEIMMA_ENOS_CHRONOUeDYO_CHRONONeTRION_CHRONONeTESSARON_CHRONONeIMISEOS_CHRONOUdGORGON_NEO_ANO
    ePARESTIGMENON_ARISTERAfDEXIAdDIGORGONePARESTIGMENON_ARISTERA_KATOgANOfDEXIAdTRIGORGONdARGONdIMIDIARGONdDIARGON
    dAGOGI_POLI_ARGIeARGOTERIeARGIeMETRIAeMESIeGORGIeGORGOTERIePOLI_GORGIdMARTYRIA_PROTOS_ICHOSeALLI_PROTOS_ICHOS
    eDEYTEROS_ICHOSeALLI_DEYTEROS_ICHOSeTRITOS_ICHOSeTRIFONIASeTETARTOS_ICHOSfLEGETOS_ICHOSeLEGETOS_ICHOS
    ePLAGIOS_ICHOSdISAKIA_TELOUS_ICHIMATOSdAPOSTROFOI_TELOUS_ICHIMATOSdFANEROSIS_TETRAFONIASeMONOFONIASeDIFONIAS
    dMARTYRIA_VARYS_ICHOSePROTOVARYS_ICHOSePLAGIOS_TETARTOS_ICHOSdGORTHMIKON_N_APLOUNfDIPLOUNdENARXIS_KAI_FTHORA_VOU
    dIMIFONONdIMIFTHORONdFTHORA_ARCHAION_DEYTEROU_ICHOUeDIATONIKI_PAfNANAeNAOS_ICHOSeDIATONIKI_DI
    eSKLIRON_DIATONON_DIeDIATONIKI_KEfZOfNI_KATOgANOeMALAKON_CHROMA_DIFONIASgMONOFONIASdFHTORA_SKLIRON_CHROMA_VASIS
    dFTHORA_SKLIRON_CHROMA_SYNAFIeNENANOdCHROA_ZYGOSeKLITONeSPATHIdFTHORA_I_YFESIS_TETARTIMORION
    eENARMONIOS_ANTIFONIAdYFESIS_TRITIMORIONdDIESIS_TRITIMORIONeTETARTIMORIONeAPLI_DYO_DODEKATA
    eMONOGRAMMOS_TESSERA_DODEKATAeDIGRAMMOS_EX_DODEKATAeTRIGRAMMOS_OKTO_DODEKATAdYFESIS_APLI_DYO_DODEKATA
    eMONOGRAMMOS_TESSERA_DODEKATAeDIGRAMMOS_EX_DODEKATAeTRIGRAMMOS_OKTO_DODEKATAdGENIKI_DIESISeYFESIS
    dDIASTOLI_APLI_MIKRIfMEGALIeDIPLIeTHESEOSdSIMANSIS_THESEOSfDISIMOUfTRISIMOUfTETRASIMOUeARSEOSfDISIMOUfTRISIMOU
    fTETRASIMOUdDIGRAMMA_GGdDIFTOGGOS_OUdSTIGMAdARKTIKO_PAeVOUeGAeDIeKEeZOeNIdKENTIMATA_NEO_MESOdKENTIMA_NEO_MESO
    dKENTIMATA_NEO_KATOdKENTIMA_NEO_KATOdKLASMA_KATOdGORGON_NEO_KATO:1D100aMUSICAL_SYMBOL_SINGLE_BARLINE
    cDOUBLE_BARLINEcFINAL_BARLINEcREVERSE_FINAL_BARLINEcDASHED_BARLINEcSHORT_BARLINEcLEFT_REPEAT_SIGN
    cRIGHT_REPEAT_SIGNcREPEAT_DOTScDAL_SEGNOcDA_CAPOcSEGNOcCODAcREPEATED_FIGURE-1dFIGURE-2dFIGURE-3cFERMATAdBELOW
    cBREATH_MARKcCAESURAcBRACEcBRACKETcONE-LINE_STAFFcTWO-LINE_STAFFcTHREE-LINE_STAFFcFOUR-LINE_STAFF
    cFIVE-LINE_STAFFcSIX-LINE_STAFFcSIX-STRING_FRETBOARDcFOUR-STRING_FRETBOARDcG_CLEFeOTTAVA_ALTAfBASSAcC_CLEF
    cF_CLEFeOTTAVA_ALTAfBASSAcDRUM_CLEF-1dCLEF-2:1D129cMULTIPLE_MEASURE_RESTcDOUBLE_SHARPdFLATcFLAT_UPdDOWN
    cNATURAL_UPdDOWNcSHARP_UPdDOWNcQUARTER_TONE_SHARPeFLATcCOMMON_TIMEcCUT_TIMEcOTTAVA_ALTAdBASSAcQUINDICESIMA_ALTA
    dBASSAcMULTI_RESTcWHOLE_RESTcHALF_RESTcQUARTER_RESTcEIGHTH_RESTcSIXTEENTH_RESTcTHIRTY-SECOND_REST
    cSIXTY-FOURTH_RESTcONE_HUNDRED_TWENTY-EIGHTH_RESTcX_NOTEHEADcPLUS_NOTEHEADcCIRCLE_X_NOTEHEAD
    cSQUARE_NOTEHEAD_WHITEeBLACKcTRIANGLE_NOTEHEAD_UP_WHITEfBLACKeLEFT_WHITEfBLACKeRIGHT_WHITEfBLACKeDOWN_WHITE
    fBLACKeUP_RIGHT_WHITEgBLACKcMOON_NOTEHEAD_WHITEeBLACKcTRIANGLE-ROUND_NOTEHEAD_DOWN_WHITEfBLACK
    cPARENTHESIS_NOTEHEADcVOID_NOTEHEADcNOTEHEAD_BLACKcNULL_NOTEHEADcCLUSTER_NOTEHEAD_WHITEeBLACKcBREVEcWHOLE_NOTE
    cHALF_NOTEcQUARTER_NOTEcEIGHTH_NOTEcSIXTEENTH_NOTEcTHIRTY-SECOND_NOTEcSIXTY-FOURTH_NOTE
    cONE_HUNDRED_TWENTY-EIGHTH_NOTEcCOMBINING_STEMdSPRECHGESANG_STEMdTREMOLO-1dTREMOLO-2dTREMOLO-3
    cFINGERED_TREMOLO-1dTREMOLO-2dTREMOLO-3cCOMBINING_AUGMENTATION_DOTdFLAG-1dFLAG-2dFLAG-3dFLAG-4dFLAG-5cBEGIN_BEAM
    cEND_BEAMcBEGIN_TIEcEND_TIEcBEGIN_SLURcEND_SLURcBEGIN_PHRASEcEND_PHRASEcCOMBINING_ACCENTdSTACCATOdTENUTO
    dSTACCATISSIMOdMARCATOdMARCATO-STACCATOdACCENT-STACCATOdLOUREcARPEGGIATO_UPdDOWNcCOMBINING_DOITdRIPdFLIPdSMEAR
    dBENDdDOUBLE_TONGUEdTRIPLE_TONGUEcRINFORZANDOcSUBITOcZcPIANOcMEZZOcFORTEcCRESCENDOcDECRESCENDOcGRACE_NOTE_SLASH
    eNO_SLASHcTRcTURNcINVERTED_TURNcTURN_SLASHdUPcORNAMENT_STROKE-1dSTROKE-2dSTROKE-3dSTROKE-4dSTROKE-5dSTROKE-6
    dSTROKE-7dSTROKE-8dSTROKE-9dSTROKE-10dSTROKE-11cHAUPTSTIMMEcNEBENSTIMMEcEND_OF_STIMMEcDEGREE_SLASH
    cCOMBINING_DOWN_BOWdUP_BOWdHARMONICdSNAP_PIZZICATOcPEDAL_MARKdUP_MARKcHALF_PEDAL_MARKcGLISSANDO_UPdDOWN
    cWITH_FINGERNAILScDAMPdALLcMAXIMAcLONGAcBREVIScSEMIBREVIS_WHITEdBLACKcMINIMAdBLACKcSEMIMINIMA_WHITEdBLACK
    cFUSA_WHITEdBLACKcLONGA_PERFECTA_RESTdIMPERFECTA_RESTcBREVIS_RESTcSEMIBREVIS_RESTcMINIMA_RESTcSEMIMINIMA_REST
    cTEMPUS_PERFECTUM_CUM_PROLATIONE_PERFECTAgIMPERFECTAgPERFECTA_DIMINUTION-1dIMPERFECTUM_CUM_PROLATIONE_PERFECTA
    gIMPERFECTAhDIMINUTION-1hDIMINUTION-2hDIMINUTION-3cCROIXcGREGORIAN_C_CLEFdF_CLEFcSQUARE_BcVIRGAcPODATUScCLIVIS
    cSCANDICUScCLIMACUScTORCULUScPORRECTUSdFLEXUScSCANDICUS_FLEXUScTORCULUS_RESUPINUScPES_SUBPUNCTIScKIEVAN_C_CLEF
    dEND_OF_PIECEdFINAL_NOTEdRECITATIVE_MARKdWHOLE_NOTEdHALF_NOTEdQUARTER_NOTE_STEM_DOWNgUPdEIGHTH_NOTE_STEM_DOWNgUP
    dFLAT_SIGNcSORIcKORON:1D200aGREEK_VOCAL_NOTATION_SYMBOL-1dSYMBOL-2dSYMBOL-3dSYMBOL-4dSYMBOL-5dSYMBOL-6dSYMBOL-7
    dSYMBOL-8dSYMBOL-9dSYMBOL-10dSYMBOL-11dSYMBOL-12dSYMBOL-13dSYMBOL-14dSYMBOL-15dSYMBOL-16dSYMBOL-17dSYMBOL-18
    dSYMBOL-19dSYMBOL-20dSYMBOL-21dSYMBOL-22dSYMBOL-23dSYMBOL-24dSYMBOL-50dSYMBOL-51dSYMBOL-52dSYMBOL-53dSYMBOL-54
    bINSTRUMENTAL_NOTATION_SYMBOL-1dSYMBOL-2dSYMBOL-4dSYMBOL-5dSYMBOL-7dSYMBOL-8dSYMBOL-11dSYMBOL-12dSYMBOL-13
    dSYMBOL-14dSYMBOL-17dSYMBOL-18dSYMBOL-19dSYMBOL-23dSYMBOL-24dSYMBOL-25dSYMBOL-26dSYMBOL-27dSYMBOL-29dSYMBOL-30
    dSYMBOL-32dSYMBOL-36dSYMBOL-37dSYMBOL-38dSYMBOL-39dSYMBOL-40dSYMBOL-42dSYMBOL-43dSYMBOL-45dSYMBOL-47dSYMBOL-48
    dSYMBOL-49dSYMBOL-50dSYMBOL-51dSYMBOL-52dSYMBOL-53dSYMBOL-54aCOMBINING_GREEK_MUSICAL_TRISEMEdTETRASEMEdPENTASEME
    aGREEK_MUSICAL_LEIMMA:1D2E0aMAYAN_NUMERAL_ZEROcONEcTWOcTHREEcFOURcFIVEcSIXcSEVENcEIGHTcNINEcTENcELEVENcTWELVE
    cTHIRTEENcFOURTEENcFIFTEENcSIXTEENcSEVENTEENcEIGHTEENcNINETEEN:1D300aMONOGRAM_FOR_EARTH
    aDIGRAM_FOR_HEAVENLY_EARTHcHUMAN_EARTHcEARTHLY_HEAVENdHUMANcEARTHaTETRAGRAM_FOR_CENTREcFULL_CIRCLEcMIREDcBARRIER
    cKEEPING_SMALLcCONTRARIETYcASCENTcOPPOSITIONcBRANCHING_OUTcDEFECTIVENESS_OR_DISTORTIONcDIVERGENCEcYOUTHFULNESS
    cINCREASEcPENETRATIONcREACHcCONTACTcHOLDING_BACKcWAITINGcFOLLOWINGcADVANCEcRELEASEcRESISTANCEcEASEcJOY
    cCONTENTIONcENDEAVOURcDUTIEScCHANGEcDECISIVENESScBOLD_RESOLUTIONcPACKINGcLEGIONcCLOSENESScKINSHIPcGATHERING
    cSTRENGTHcPURITYcFULLNESScRESIDENCEcLAW_OR_MODELcRESPONSEcGOING_TO_MEETcENCOUNTERScSTOVEcGREATNESScENLARGEMENT
    cPATTERNcRITUALcFLIGHTcVASTNESS_OR_WASTINGcCONSTANCYcMEASUREcETERNITYcUNITYcDIMINISHMENTcCLOSED_MOUTH
    cGUARDEDNESScGATHERING_INcMASSINGcACCUMULATIONcEMBELLISHMENTcDOUBTcWATCHcSINKINGcINNERcDEPARTUREcDARKENING
    cDIMMINGcEXHAUSTIONcSEVERANCEcSTOPPAGEcHARDNESScCOMPLETIONcCLOSUREcFAILUREcAGGRAVATIONcCOMPLIANCEcON_THE_VERGE
    cDIFFICULTIEScLABOURINGcFOSTERING:1D360aCOUNTING_ROD_UNIT_DIGIT_ONEeTWOeTHREEeFOUReFIVEeSIXeSEVENeEIGHTeNINE
    cTENS_DIGIT_ONEeTWOeTHREEeFOUReFIVEeSIXeSEVENeEIGHTeNINEaIDEOGRAPHIC_TALLY_MARK_ONEdTWOdTHREEdFOURdFIVE
    aTALLY_MARK_ONEcFIVE:1D400aMATHEMATICAL_BOLD_CAPITAL_AdBdCdDdEdFdGdHdIdJdKdLdMdNdOdPdQdRdSdTdUdVdWdXdYdZcSMALL_A
    dBdCdDdEdFdGdHdIdJdKdLdMdNdOdPdQdRdSdTdUdVdWdXdYdZbITALIC_CAPITAL_AdBdCdDdEdFdGdHdIdJdKdLdMdNdOdPdQdRdSdTdUdVdW
    dXdYdZcSMALL_AdBdCdDdEdFdG:1D456dIdJdKdLdMdNdOdPdQdRdSdTdUdVdWdXdYdZbBOLD_ITALIC_CAPITAL_AeBeCeDeEeFeGeHeIeJeKeL
    eMeNeOePeQeReSeTeUeVeWeXeYeZdSMALL_AeBeCeDeEeFeGeHeIeJeKeLeMeNeOePeQeReSeTeUeVeWeXeYeZbSCRIPT_CAPITAL_A:1D49EdC
    dD:1D4A2dG:1D4A5dJdK:1D4A9dNdOdPdQ:1D4AEdSdTdUdVdWdXdYdZcSMALL_AdBdCdD:1D4BBdF:1D4BDdHdIdJdKdLdMdN:1D4C5dPdQdRdS
    dTdUdVdWdXdYdZbBOLD_SCRIPT_CAPITAL_AeBeCeDeEeFeGeHeIeJeKeLeMeNeOePeQeReSeTeUeVeWeXeYeZdSMALL_AeBeCeDeEeFeGeHeIeJ
    eKeLeMeNeOePeQeReSeTeUeVeWeXeYeZbFRAKTUR_CAPITAL_AdB:1D507dDdEdFdG:1D50DdJdKdLdMdNdOdPdQ:1D516dSdTdUdVdWdXdY
    :1D51EcSMALL_AdBdCdDdEdFdGdHdIdJdKdLdMdNdOdPdQdRdSdTdUdVdWdXdYdZbDOUBLE-STRUCK_CAPITAL_AdB:1D53BdDdEdFdG:1D540dI
    dJdKdLdM:1D546dO:1D54AdSdTdUdVdWdXdY:1D552cSMALL_AdBdCdDdEdFdGdHdIdJdKdLdMdNdOdPdQdRdSdTdUdVdWdXdYdZ
    bBOLD_FRAKTUR_CAPITAL_AeBeCeDeEeFeGeHeIeJeKeLeMeNeOePeQeReSeTeUeVeWeXeYeZdSMALL_AeBeCeDeEeFeGeHeIeJeKeLeMeNeOeP
    eQeReSeTeUeVeWeXeYeZbSANS-SERIF_CAPITAL_AdBdCdDdEdFdGdHdIdJdKdLdMdNdOdPdQdRdSdTdUdVdWdXdYdZcSMALL_AdBdCdDdEdFdG
    dHdIdJdKdLdMdNdOdPdQdRdSdTdUdVdWdXdYdZcBOLD_CAPITAL_AeBeCeDeEeFeGeHeIeJeKeLeMeNeOePeQeReSeTeUeVeWeXeYeZdSMALL_A
    eBeCeDeEeFeGeHeIeJeKeLeMeNeOePeQeReSeTeUeVeWeXeYeZcITALIC_CAPITAL_AeBeCeDeEeFeGeHeIeJeKeLeMeNeOePeQeReSeTeUeVeW
    eXeYeZdSMALL_AeBeCeDeEeFeGeHeIeJeKeLeMeNeOePeQeReSeTeUeVeWeXeYeZcBOLD_ITALIC_CAPITAL_AfBfCfDfEfFfGfHfIfJfKfLfMfN
    fOfPfQfRfSfTfUfVfWfXfYfZeSMALL_AfBfCfDfEfFfGfHfIfJfKfLfMfNfOfPfQfRfSfTfUfVfWfXfYfZbMONOSPACE_CAPITAL_AdBdCdDdEdF
    dGdHdIdJdKdLdMdNdOdPdQdRdSdTdUdVdWdXdYdZcSMALL_AdBdCdDdEdFdGdHdIdJdKdLdMdNdOdPdQdRdSdTdUdVdWdXdYdZ
    bITALIC_SMALL_DOTLESS_IeJ:1D6A8bBOLD_CAPITAL_ALPHAdBETAdGAMMAdDELTAdEPSILONdZETAdETAdTHETAdIOTAdKAPPAdLAMDAdMU
    dNUdXIdOMICRONdPIdRHOdTHETA_SYMBOLdSIGMAdTAUdUPSILONdPHIdCHIdPSIdOMEGAcNABLAcSMALL_ALPHAdBETAdGAMMAdDELTA
    dEPSILONdZETAdETAdTHETAdIOTAdKAPPAdLAMDAdMUdNUdXIdOMICRONdPIdRHOdFINAL_SIGMAdSIGMAdTAUdUPSILONdPHIdCHIdPSIdOMEGA
    cPARTIAL_DIFFERENTIALcEPSILON_SYMBOLcTHETA_SYMBOLcKAPPA_SYMBOLcPHI_SYMBOLcRHO_SYMBOLcPI_SYMBOL
    bITALIC_CAPITAL_ALPHAdBETAdGAMMAdDELTAdEPSILONdZETAdETAdTHETAdIOTAdKAPPAdLAMDAdMUdNUdXIdOMICRONdPIdRHO
    dTHETA_SYMBOLdSIGMAdTAUdUPSILONdPHIdCHIdPSIdOMEGAcNABLAcSMALL_ALPHAdBETAdGAMMAdDELTAdEPSILONdZETAdETAdTHETAdIOTA
    dKAPPAdLAMDAdMUdNUdXIdOMICRONdPIdRHOdFINAL_SIGMAdSIGMAdTAUdUPSILONdPHIdCHIdPSIdOMEGAcPARTIAL_DIFFERENTIAL
    cEPSILON_SYMBOLcTHETA_SYMBOLcKAPPA_SYMBOLcPHI_SYMBOLcRHO_SYMBOLcPI_SYMBOLbBOLD_ITALIC_CAPITAL_ALPHAeBETAeGAMMA
    eDELTAeEPSILONeZETAeETAeTHETAeIOTAeKAPPAeLAMDAeMUeNUeXIeOMICRONePIeRHOeTHETA_SYMBOLeSIGMAeTAUeUPSILONePHIeCHI
    ePSIeOMEGAdNABLAdSMALL_ALPHAeBETAeGAMMAeDELTAeEPSILONeZETAeETAeTHETAeIOTAeKAPPAeLAMDAeMUeNUeXIeOMICRONePIeRHO
    eFINAL_SIGMAeSIGMAeTAUeUPSILONePHIeCHIePSIeOMEGAdPARTIAL_DIFFERENTIALdEPSILON_SYMBOLdTHETA_SYMBOLdKAPPA_SYMBOL
    dPHI_SYMBOLdRHO_SYMBOLdPI_SYMBOLbSANS-SERIF_BOLD_CAPITAL_ALPHAeBETAeGAMMAeDELTAeEPSILONeZETAeETAeTHETAeIOTA
    eKAPPAeLAMDAeMUeNUeXIeOMICRONePIeRHOeTHETA_SYMBOLeSIGMAeTAUeUPSILONePHIeCHIePSIeOMEGAdNABLAdSMALL_ALPHAeBETA
    eGAMMAeDELTAeEPSILONeZETAeETAeTHETAeIOTAeKAPPAeLAMDAeMUeNUeXIeOMICRONePIeRHOeFINAL_SIGMAeSIGMAeTAUeUPSILONePHI
    eCHIePSIeOMEGAdPARTIAL_DIFFERENTIALdEPSILON_SYMBOLdTHETA_SYMBOLdKAPPA_SYMBOLdPHI_SYMBOLdRHO_SYMBOLdPI_SYMBOL
    dITALIC_CAPITAL_ALPHAfBETAfGAMMAfDELTAfEPSILONfZETAfETAfTHETAfIOTAfKAPPAfLAMDAfMUfNUfXIfOMICRONfPIfRHO
    fTHETA_SYMBOLfSIGMAfTAUfUPSILONfPHIfCHIfPSIfOMEGAeNABLAeSMALL_ALPHAfBETAfGAMMAfDELTAfEPSILONfZETAfETAfTHETAfIOTA
    fKAPPAfLAMDAfMUfNUfXIfOMICRONfPIfRHOfFINAL_SIGMAfSIGMAfTAUfUPSILONfPHIfCHIfPSIfOMEGAePARTIAL_DIFFERENTIAL
    eEPSILON_SYMBOLeTHETA_SYMBOLeKAPPA_SYMBOLePHI_SYMBOLeRHO_SYMBOLePI_SYMBOLbBOLD_CAPITAL_DIGAMMAcSMALL_DIGAMMA
    :1D7CEcDIGIT_ZEROdONEdTWOdTHREEdFOURdFIVEdSIXdSEVENdEIGHTdNINEbDOUBLE-STRUCK_DIGIT_ZEROdONEdTWOdTHREEdFOURdFIVE
    dSIXdSEVENdEIGHTdNINEbSANS-SERIF_DIGIT_ZEROdONEdTWOdTHREEdFOURdFIVEdSIXdSEVENdEIGHTdNINEcBOLD_DIGIT_ZEROeONEeTWO
    eTHREEeFOUReFIVEeSIXeSEVENeEIGHTeNINEbMONOSPACE_DIGIT_ZEROdONEdTWOdTHREEdFOURdFIVEdSIXdSEVENdEIGHTdNINE
    aSIGNWRITING_HAND-FIST_INDEXbHAND-CIRCLE_INDEXbHAND-CUP_INDEXbHAND-OVAL_INDEXbHAND-HINGE_INDEXbHAND-ANGLE_INDEX
    bHAND-FIST_INDEX_BENTbHAND-CIRCLE_INDEX_BENTbHAND-FIST_THUMB_UNDER_INDEX_BENTcINDEX_RAISED_KNUCKLEdCUPPEDdHINGED
    eLOWbHAND-CIRCLE_INDEX_HINGEbHAND-FIST_INDEX_MIDDLEbHAND-CIRCLE_INDEX_MIDDLEbHAND-FIST_INDEX_MIDDLE_BENT
    eRAISED_KNUCKLESeHINGEDdUP_MIDDLE_HINGEDdHINGED_MIDDLE_UPdMIDDLE_CONJOINEDfINDEX_BENTfMIDDLE_BENTfCUPPEDfHINGED
    eCROSSEDbHAND-CIRCLE_INDEX_MIDDLE_CROSSEDbHAND-FIST_MIDDLE_BENT_OVER_INDEXcINDEX_BENT_OVER_MIDDLEdMIDDLE_THUMB
    bHAND-CIRCLE_INDEX_MIDDLE_THUMBbHAND-FIST_INDEX_MIDDLE_STRAIGHT_THUMB_BENTeBENT_THUMB_STRAIGHTeTHUMB_BENT
    eHINGED_SPREAD_THUMB_SIDEdUP_MIDDLE_HINGED_THUMB_SIDEhCONJOINEDdHINGED_MIDDLE_UP_THUMB_SIDE
    dMIDDLE_UP_SPREAD_THUMB_FORWARDeTHUMB_CUPPEDfCIRCLEDfHOOKEDfHINGEDcTHUMB_BETWEEN_INDEX_MIDDLE_STRAIGHT
    cINDEX_MIDDLE_CONJOINED_THUMB_SIDEhCONJOINEDhBENTcMIDDLE_THUMB_HOOKED_INDEX_UPcINDEX_THUMB_HOOKED_MIDDLE_UP
    dMIDDLE_CONJOINED_HINGED_THUMB_SIDEeCROSSED_THUMB_SIDEeCONJOINED_THUMB_FORWARDfCUPPED_THUMB_FORWARD
    cMIDDLE_THUMB_CUPPED_INDEX_UPcINDEX_THUMB_CUPPED_MIDDLE_UPcMIDDLE_THUMB_CIRCLED_INDEX_UPgHINGED
    cINDEX_THUMB_ANGLED_OUT_MIDDLE_UPfIN_MIDDLE_UPeCIRCLED_MIDDLE_UPdMIDDLE_THUMB_CONJOINED_HINGEDfANGLED_OUTfANGLED
    cMIDDLE_THUMB_ANGLED_OUT_INDEX_UPhCROSSEDfINDEX_UPcINDEX_THUMB_HOOKED_MIDDLE_HINGEDbHAND-FLAT_FOUR_FINGERSeBENT
    eHINGEDeCONJOINEDfSPLITbHAND-CLAW_FOUR_FINGERS_CONJOINEDbHAND-FIST_FOUR_FINGERS_CONJOINED_BENT
    bHAND-HINGE_FOUR_FINGERS_CONJOINEDbHAND-FLAT_FIVE_FINGERS_SPREADcHEEL_FIVE_FINGERS_SPREAD
    cFIVE_FINGERS_SPREAD_FOUR_BENTcHEEL_FIVE_FINGERS_SPREAD_FOUR_BENTcFIVE_FINGERS_SPREAD_BENT
    cHEEL_FIVE_FINGERS_SPREAD_BENTcFIVE_FINGERS_SPREAD_THUMB_FORWARDbHAND-CUP_FIVE_FINGERS_SPREADfOPEN
    bHAND-HINGE_FIVE_FINGERS_SPREAD_OPENbHAND-OVAL_FIVE_FINGERS_SPREADbHAND-FLAT_FIVE_FINGERS_SPREAD_HINGED
    gTHUMB_SIDEgNO_THUMBbHAND-FLATcBETWEEN_PALM_FACINGScHEELcTHUMB_SIDEcHEEL_THUMB_SIDEcTHUMB_BENTdFORWARD
    cSPLIT_INDEX_THUMB_SIDEdCENTREeTHUMB_SIDEgBENTdLITTLEbHAND-CLAWcTHUMB_SIDEcNO_THUMBcTHUMB_FORWARD
    bHAND-HOOK_CURLICUEbHAND-HOOKbHAND-CUP_OPENbHAND-CUPcOPEN_THUMB_SIDEcTHUMB_SIDEcOPEN_NO_THUMBcNO_THUMB
    cOPEN_THUMB_FORWARDcTHUMB_FORWARDbHAND-CURLICUE_OPENbHAND-CURLICUEbHAND-CIRCLEbHAND-OVALcTHUMB_SIDEcNO_THUMB
    cTHUMB_FORWARDbHAND-HINGE_OPENdTHUMB_FORWARDbHAND-HINGEcSMALLcOPEN_THUMB_SIDEcTHUMB_SIDEcOPEN_NO_THUMBcNO_THUMB
    cTHUMB_SIDE_TOUCHING_INDEXdBETWEEN_MIDDLE_RINGbHAND-ANGLEbHAND-FIST_INDEX_MIDDLE_RING
    bHAND-CIRCLE_INDEX_MIDDLE_RINGbHAND-HINGE_INDEX_MIDDLE_RINGbHAND-ANGLE_INDEX_MIDDLE_RINGbHAND-HINGE_LITTLE
    bHAND-FIST_INDEX_MIDDLE_RING_BENTfCONJOINEDbHAND-HINGE_INDEX_MIDDLE_RING_CONJOINEDbHAND-FIST_LITTLE_DOWN
    eRIPPLE_STRAIGHTfCURVEDeOTHERS_CIRCLEDdUPcTHUMB_UNDER_LITTLE_UPbHAND-CIRCLE_LITTLE_UPbHAND-OVAL_LITTLE_UP
    bHAND-ANGLE_LITTLE_UPbHAND-FIST_LITTLE_RAISED_KNUCKLEdBENTdTOUCHES_THUMBdTHUMBbHAND-HINGE_LITTLE_THUMB
    bHAND-FIST_LITTLE_INDEX_THUMBbHAND-HINGE_LITTLE_INDEX_THUMBbHAND-ANGLE_LITTLE_INDEX_THUMB_INDEX_THUMB_OUTgTHUMB
    bHAND-FIST_LITTLE_INDEXbHAND-CIRCLE_LITTLE_INDEXbHAND-HINGE_LITTLE_INDEXbHAND-ANGLE_LITTLE_INDEX
    bHAND-FIST_INDEX_MIDDLE_LITTLEbHAND-CIRCLE_INDEX_MIDDLE_LITTLEbHAND-HINGE_INDEX_MIDDLE_LITTLEcRING
    bHAND-ANGLE_INDEX_MIDDLE_LITTLEbHAND-FIST_INDEX_MIDDLE_CROSS_LITTLEbHAND-CIRCLE_INDEX_MIDDLE_CROSS_LITTLE
    bHAND-FIST_RING_DOWNbHAND-HINGE_RING_DOWN_INDEX_THUMB_HOOK_MIDDLEbHAND-ANGLE_RING_DOWN_MIDDLE_THUMB_INDEX_CROSS
    bHAND-FIST_RING_UPdRAISED_KNUCKLEdLITTLEbHAND-CIRCLE_RING_LITTLEbHAND-OVAL_RING_LITTLEbHAND-ANGLE_RING_LITTLE
    bHAND-FIST_RING_MIDDLEeCONJOINEDeRAISED_KNUCKLESdINDEXdTHUMBbHAND-HOOK_RING_THUMBbHAND-FIST_INDEX_RING_LITTLE
    bHAND-CIRCLE_INDEX_RING_LITTLEbHAND-CURLICUE_INDEX_RING_LITTLE_ONbHAND-HOOK_INDEX_RING_LITTLE_OUTfINfUNDER
    bHAND-CUP_INDEX_RING_LITTLEbHAND-HINGE_INDEX_RING_LITTLEbHAND-ANGLE_INDEX_RING_LITTLE_OUTeLITTLE
    bHAND-FIST_MIDDLE_DOWNbHAND-HINGE_MIDDLEbHAND-FIST_MIDDLE_UPbHAND-CIRCLE_MIDDLE_UP
    bHAND-FIST_MIDDLE_RAISED_KNUCKLEdUP_THUMB_SIDEbHAND-HOOK_MIDDLE_THUMBbHAND-FIST_MIDDLE_THUMB_LITTLEdLITTLE
    dRING_LITTLEbHAND-CIRCLE_MIDDLE_RING_LITTLEbHAND-CURLICUE_MIDDLE_RING_LITTLE_ONbHAND-CUP_MIDDLE_RING_LITTLE
    bHAND-HINGE_MIDDLE_RING_LITTLEbHAND-ANGLE_MIDDLE_RING_LITTLE_OUTfINeLITTLEbHAND-CIRCLE_MIDDLE_RING_LITTLE_BENT
    bHAND-CLAW_MIDDLE_RING_LITTLE_CONJOINEDgSIDEbHAND-HOOK_MIDDLE_RING_LITTLE_CONJOINED_OUTgINfCONJOINED
    bHAND-HINGE_INDEX_HINGEDbHAND-FIST_INDEX_THUMB_SIDEbHAND-HINGE_INDEX_THUMB_SIDE
    bHAND-FIST_INDEX_THUMB_SIDE_THUMB_DIAGONALgCONJOINEDgBENTfINDEX_BENTfBOTH_BENTfINDEX_HINGE
    eFORWARD_INDEX_STRAIGHTgBENTeHOOKeCURLICUEeCURVE_THUMB_INSIDEbHAND-CLAW_INDEX_THUMB_CURVE_THUMB_INSIDE
    bHAND-FIST_INDEX_THUMB_CURVE_THUMB_UNDEReCIRCLEbHAND-CUP_INDEX_THUMBeOPENbHAND-HINGE_INDEX_THUMB_OPENeLARGE
    dTHUMBeSMALLbHAND-ANGLE_INDEX_THUMB_OUTeINdTHUMBbHAND-FIST_THUMBdHEELdSIDE_DIAGONALeCONJOINEDeBENTdFORWARD
    dBETWEEN_INDEX_MIDDLEeMIDDLE_RINGeRING_LITTLEdUNDER_TWO_FINGERSdOVER_TWO_FINGERSdUNDER_THREE_FINGERS
    eFOUR_FINGERSdOVER_FOUR_RAISED_KNUCKLESbHAND-FISTcHEELbTOUCH_SINGLEcMULTIPLEcBETWEENbGRASP_SINGLEcMULTIPLE
    cBETWEENbSTRIKE_SINGLEcMULTIPLEcBETWEENbBRUSH_SINGLEcMULTIPLEcBETWEENbRUB_SINGLEcMULTIPLEcBETWEEN
    bSURFACE_SYMBOLScBETWEENbSQUEEZE_LARGE_SINGLEcSMALL_SINGLEcLARGE_MULTIPLEcSMALL_MULTIPLEcSEQUENTIAL
    bFLICK_LARGE_SINGLEcSMALL_SINGLEcLARGE_MULTIPLEcSMALL_MULTIPLEcSEQUENTIALbSQUEEZE_FLICK_ALTERNATING
    bMOVEMENT-HINGE_UP_DOWN_LARGEeSMALLdSEQUENTIALcDOWN_SEQUENTIALcUP_DOWN_ALTERNATING_LARGEfSMALL
    cSIDE_TO_SIDE_SCISSORSbMOVEMENT-WALLPLANE_FINGER_CONTACTbMOVEMENT-FLOORPLANE_FINGER_CONTACT
    bMOVEMENT-WALLPLANE_SINGLE_STRAIGHT_SMALLeMEDIUMeLARGEeLARGESTdWRIST_FLEXcDOUBLE_STRAIGHTdWRIST_FLEXdALTERNATING
    eWRIST_FLEXcCROSScTRIPLE_STRAIGHT_MOVEMENTdWRIST_FLEXdALTERNATINGeWRIST_FLEXcBEND_SMALLdMEDIUMdLARGE
    cCORNER_SMALLdMEDIUMdLARGEdROTATIONcCHECK_SMALLdMEDIUMdLARGEcBOX_SMALLdMEDIUMdLARGEcZIGZAG_SMALLdMEDIUMdLARGE
    cPEAKS_SMALLdMEDIUMdLARGEbTRAVEL-WALLPLANE_ROTATION-WALLPLANE_SINGLEdDOUBLEdALTERNATING
    cROTATION-FLOORPLANE_SINGLEdDOUBLEdALTERNATINGcSHAKINGcARM_SPIRAL_SINGLEeDOUBLEeTRIPLE
    bMOVEMENT-DIAGONAL_AWAY_SMALLdMEDIUMdLARGEdLARGESTcTOWARDS_SMALLdMEDIUMdLARGEdLARGESTcBETWEEN_AWAY_SMALLeMEDIUM
    eLARGEeLARGESTdTOWARDS_SMALLeMEDIUMeLARGEeLARGESTbMOVEMENT-FLOORPLANE_SINGLE_STRAIGHT_SMALLeMEDIUMeLARGEeLARGEST
    dWRIST_FLEXcDOUBLE_STRAIGHTdWRIST_FLEXdALTERNATINGeWRIST_FLEXcCROSScTRIPLE_STRAIGHT_MOVEMENTdWRIST_FLEX
    dALTERNATING_MOVEMENTeWRIST_FLEXcBENDcCORNER_SMALLdMEDIUMdLARGEcCHECKcBOX_SMALLdMEDIUMdLARGEcZIGZAG_SMALLdMEDIUM
    dLARGEcPEAKS_SMALLdMEDIUMdLARGEbTRAVEL-FLOORPLANE_ROTATION-FLOORPLANE_SINGLEdDOUBLEdALTERNATING
    cROTATION-WALLPLANE_SINGLEdDOUBLEdALTERNATINGcSHAKINGbMOVEMENT-WALLPLANE_CURVE_QUARTER_SMALLeMEDIUMeLARGE
    eLARGESTdHALF-CIRCLE_SMALLeMEDIUMeLARGEeLARGESTdTHREE-QUARTER_CIRCLE_SMALLfMEDIUMcHUMP_SMALLdMEDIUMdLARGE
    cLOOP_SMALLdMEDIUMdLARGEdSMALL_DOUBLEcWAVE_CURVE_DOUBLE_SMALLfMEDIUMfLARGEeTRIPLE_SMALLfMEDIUMfLARGE
    cCURVE_THEN_STRAIGHTcCURVED_CROSS_SMALLeMEDIUMbROTATION-WALLPLANE_SINGLEcDOUBLEcALTERNATE
    bMOVEMENT-WALLPLANE_SHAKINGcCURVE_HITTING_FRONT_WALLcHUMP_HITTING_FRONT_WALLcLOOP_HITTING_FRONT_WALL
    cWAVE_HITTING_FRONT_WALLbROTATION-WALLPLANE_SINGLE_HITTING_FRONT_WALLcDOUBLE_HITTING_FRONT_WALL
    cALTERNATING_HITTING_FRONT_WALLbMOVEMENT-WALLPLANE_CURVE_HITTING_CHESTcHUMP_HITTING_CHESTcLOOP_HITTING_CHEST
    cWAVE_HITTING_CHESTbROTATION-WALLPLANE_SINGLE_HITTING_CHESTcDOUBLE_HITTING_CHESTcALTERNATING_HITTING_CHEST
    bMOVEMENT-WALLPLANE_WAVE_DIAGONAL_PATH_SMALLfMEDIUMfLARGEbMOVEMENT-FLOORPLANE_CURVE_HITTING_CEILING_SMALLfLARGE
    cHUMP_HITTING_CEILING_SMALL_DOUBLEfLARGE_DOUBLEfSMALL_TRIPLEfLARGE_TRIPLEcLOOP_HITTING_CEILING_SMALL_SINGLE
    fLARGE_SINGLEfSMALL_DOUBLEfLARGE_DOUBLEcWAVE_HITTING_CEILING_SMALLfLARGE
    bROTATION-FLOORPLANE_SINGLE_HITTING_CEILINGcDOUBLE_HITTING_CEILINGcALTERNATING_HITTING_CEILING
    bMOVEMENT-FLOORPLANE_CURVE_HITTING_FLOOR_SMALLfLARGEcHUMP_HITTING_FLOOR_SMALL_DOUBLEfLARGE_DOUBLE
    fTRIPLE_SMALL_TRIPLEgLARGE_TRIPLEcLOOP_HITTING_FLOOR_SMALL_SINGLEfLARGE_SINGLEfSMALL_DOUBLEfLARGE_DOUBLE
    cWAVE_HITTING_FLOOR_SMALLfLARGEbROTATION-FLOORPLANE_SINGLE_HITTING_FLOORcDOUBLE_HITTING_FLOOR
    cALTERNATING_HITTING_FLOORbMOVEMENT-FLOORPLANE_CURVE_SMALLdMEDIUMdLARGEdLARGESTdCOMBINEDcHUMP_SMALLcLOOP_SMALL
    cWAVE_SNAKEdSMALLdLARGEbROTATION-FLOORPLANE_SINGLEcDOUBLEcALTERNATINGbMOVEMENT-FLOORPLANE_SHAKING_PARALLEL
    bMOVEMENT-WALLPLANE_ARM_CIRCLE_SMALL_SINGLEeMEDIUM_SINGLEeSMALL_DOUBLEeMEDIUM_DOUBLE
    bMOVEMENT-FLOORPLANE_ARM_CIRCLE_HITTING_WALL_SMALL_SINGLEgMEDIUM_SINGLEgLARGE_SINGLEgSMALL_DOUBLEgMEDIUM_DOUBLE
    gLARGE_DOUBLEbMOVEMENT-WALLPLANE_WRIST_CIRCLE_FRONT_SINGLEfDOUBLE
    bMOVEMENT-FLOORPLANE_WRIST_CIRCLE_HITTING_WALL_SINGLEgDOUBLEbMOVEMENT-WALLPLANE_FINGER_CIRCLES_SINGLEeDOUBLE
    bMOVEMENT-FLOORPLANE_FINGER_CIRCLES_HITTING_WALL_SINGLEgDOUBLEbDYNAMIC_ARROWHEAD_SMALLdLARGEcFASTcSLOWcTENSE
    cRELAXEDcSIMULTANEOUSdALTERNATINGcEVERY_OTHER_TIMEcGRADUALbHEADcRIMcMOVEMENT-WALLPLANE_STRAIGHTdTILT
    cMOVEMENT-FLOORPLANE_STRAIGHTcMOVEMENT-WALLPLANE_CURVEcMOVEMENT-FLOORPLANE_CURVEcMOVEMENT_CIRCLE
    bFACE_DIRECTION_POSITION_NOSE_FORWARD_TILTINGfUP_OR_DOWNiTILTINGbEYEBROWS_STRAIGHT_UPdNEUTRALdDOWN
    bDREAMY_EYEBROWS_NEUTRAL_DOWNdDOWN_NEUTRALdUP_NEUTRALdNEUTRAL_UPbFOREHEAD_NEUTRALcCONTACTcWRINKLEDbEYES_OPEN
    cSQUEEZEDcCLOSEDbEYE_BLINK_SINGLEdMULTIPLEbEYES_HALF_OPENcWIDE_OPENcHALF_CLOSEDcWIDENING_MOVEMENTbEYE_WINK
    bEYELASHES_UPcDOWNcFLUTTERINGbEYEGAZE-WALLPLANE_STRAIGHTdDOUBLEdALTERNATINGbEYEGAZE-FLOORPLANE_STRAIGHTdDOUBLE
    dALTERNATINGbEYEGAZE-WALLPLANE_CURVEDbEYEGAZE-FLOORPLANE_CURVEDbEYEGAZE-WALLPLANE_CIRCLINGbCHEEKS_PUFFEDcNEUTRAL
    cSUCKEDbTENSE_CHEEKS_HIGHdMIDDLEdLOWbEARSbNOSE_NEUTRALcCONTACTcWRINKLEScWIGGLESbAIR_BLOWING_OUTcSUCKING_IN
    cBLOW_SMALL_ROTATIONScSUCK_SMALL_ROTATIONSbBREATH_INHALEcEXHALEbMOUTH_CLOSED_NEUTRALdFORWARDdCONTACTcSMILE
    dWRINKLEDdOPENcFROWNdWRINKLEDdOPENcOPEN_CIRCLEdFORWARDdWRINKLEDdOVALeWRINKLEDeYAWNdRECTANGLEeWRINKLEDeYAWNcKISS
    dFORWARDdWRINKLEDcTENSEdFORWARDdSUCKEDbLIPS_PRESSED_TOGETHERbLIP_LOWER_OVER_UPPERcUPPER_OVER_LOWERbMOUTH_CORNERS
    cWRINKLES_SINGLEdDOUBLEbTONGUE_STICKING_OUT_FARcLICKING_LIPScTIP_BETWEEN_LIPSdTOUCHING_INSIDE_MOUTH
    cINSIDE_MOUTH_RELAXEDcMOVES_AGAINST_CHEEKcCENTRE_STICKING_OUTdINSIDE_MOUTHbTEETHcMOVEMENTcON_TONGUEeMOVEMENT
    dLIPSeMOVEMENTcBITE_LIPSbMOVEMENT-WALLPLANE_JAWbMOVEMENT-FLOORPLANE_JAWbNECKbHAIRbEXCITEMENTbSHOULDER_HIP_SPINE
    dPOSITIONSbWALLPLANE_SHOULDER_HIP_MOVEbFLOORPLANE_SHOULDER_HIP_MOVEbSHOULDER_TILTING_FROM_WAIST
    bTORSO-WALLPLANE_STRAIGHT_STRETCHcCURVED_BENDbTORSO-FLOORPLANE_TWISTINGbUPPER_BODY_TILTING_FROM_HIP_JOINTS
    bLIMB_COMBINATIONcLENGTH-1cLENGTH-2cLENGTH-3cLENGTH-4cLENGTH-5cLENGTH-6cLENGTH-7bFINGERbLOCATION-WALLPLANE_SPACE
    bLOCATION-FLOORPLANE_SPACEbLOCATION_HEIGHTcWIDTHcDEPTHcHEAD_NECKcTORSOcLIMBS_DIGITSbCOMMAbFULL_STOPbSEMICOLON
    bCOLONbPARENTHESIS:1DA9BbFILL_MODIFIER-2cMODIFIER-3cMODIFIER-4cMODIFIER-5cMODIFIER-6:1DAA1bROTATION_MODIFIER-2
    cMODIFIER-3cMODIFIER-4cMODIFIER-5cMODIFIER-6cMODIFIER-7cMODIFIER-8cMODIFIER-9cMODIFIER-10cMODIFIER-11
    cMODIFIER-12cMODIFIER-13cMODIFIER-14cMODIFIER-15cMODIFIER-16:1DF00aLATIN_SMALL_LETTER_FENG_DIGRAPH_WITH_TRILL
    dREVERSED_SCRIPT_GbLETTER_SMALL_CAPITAL_TURNED_GbSMALL_LETTER_REVERSED_KbLETTER_SMALL_CAPITAL_L_WITH_BELT
    bSMALL_LETTER_LEZH_WITH_RETROFLEX_HOOKdTURNED_Y_WITH_BELTdREVERSED_ENGdTURNED_R_WITH_LONG_LEG_AND_RETROFLEX_HOOK
    dT_WITH_HOOK_AND_RETROFLEX_HOOKbLETTER_RETROFLEX_CLICK_WITH_RETROFLEX_HOOKbSMALL_LETTER_ESH_WITH_DOUBLE_BAR
    hAND_CURLdTURNED_T_WITH_CURLbLETTER_INVERTED_GLOTTAL_STOP_WITH_CURLcSTRETCHED_C_WITH_CURLcSMALL_CAPITAL_TURNED_K
    bSMALL_LETTER_L_WITH_FISHHOOKdDEZH_DIGRAPH_WITH_PALATAL_HOOKdL_WITH_BELT_AND_PALATAL_HOOKdENG_WITH_PALATAL_HOOK
    dTURNED_R_WITH_PALATAL_HOOKdR_WITH_FISHHOOK_AND_PALATAL_HOOKdTESH_DIGRAPH_WITH_PALATAL_HOOK
    dEZH_WITH_PALATAL_HOOKdDEZH_DIGRAPH_WITH_RETROFLEX_HOOKdI_WITH_STROKE_AND_RETROFLEX_HOOKdO_WITH_RETROFLEX_HOOK
    dTESH_DIGRAPH_WITH_RETROFLEX_HOOKdC_WITH_RETROFLEX_HOOKdS_WITH_CURL:1E000aCOMBINING_GLAGOLITIC_LETTER_AZUdBUKY
    dVEDEdGLAGOLIdDOBROdYESTUdZHIVETE:1E008dZEMLJAdIZHEdINITIAL_IZHEdIdDJERVIdKAKOdLJUDIJEdMYSLITEdNASHIdONUdPOKOJI
    dRITSIdSLOVOdTVRIDOdUKUdFRITUdHERU:1E01BdSHTAdTSIdCHRIVIdSHAdYERUdYERIdYATI:1E023dYUdSMALL_YUS:1E026dYO
    dIOTATED_SMALL_YUSdBIG_YUSdIOTATED_BIG_YUSdFITA:1E100aNYIAKENG_PUACHUE_HMONG_LETTER_MAeTSAeNTAeTAeHAeNAeXAeNKA
    eCAeLAeSAeZAeNCAeNTSAeKAeDAeNYAeNRAeVAeNTXAeTXAeFAeRAeQAeYAeNQAePAeXYAeNPAeDLAeNPLAeHAHeMLAePLAeGAeRRAeAeAAeIeU
    eOeOOeEeEEeW:1E130dTONE-BdTONE-MdTONE-JdTONE-VdTONE-SdTONE-GdTONE-DdSIGN_FOR_PERSONfTHINGfLOCATIONfANIMAL
    fINVERTEBRATEeXW_XWdSYLLABLE_LENGTHENER:1E140dDIGIT_ZEROeONEeTWOeTHREEeFOUReFIVEeSIXeSEVENeEIGHTeNINE
    :1E14EdLOGOGRAM_NYAJdCIRCLED_CA:1E290aTOTO_LETTER_PAcBAcTAcDAcKAcGAcMAcNAcNGAcSAcCHAcYAcWAcJAcHAcRAcLAcI
    cBREATHY_IcIUcBREATHY_IUcUcEcBREATHY_EcEOcBREATHY_EOcOcAEcBREATHY_AEcAbSIGN_RISING_TONE:1E2C0aWANCHO_LETTER_AAcA
    cBAcCAcDAcGAcYAcPHAcLAcNAcPAcTAcTHAcFAcSAcSHAcJAcZAcWAcVAcKAcOcAUcRAcMAcKHAcHAcEcIcNGAcUcLLHAcTSAcTRAcONGcAANG
    cANGcINGcONcENcAANcNYAcUENcYIHbTONE_TUPcTUPNIcKOIcKOINIbDIGIT_ZEROcONEcTWOcTHREEcFOURcFIVEcSIXcSEVENcEIGHTcNINE
    :1E2FFbNGUN_SIGN:1E7E0aETHIOPIC_SYLLABLE_HHYAcHHYUcHHYIcHHYAAcHHYEEcHHYEcHHYO:1E7E8cGURAGE_HHWAcHHWIcHHWEEcHHWE
    :1E7EDcGURAGE_MWIdMWEE:1E7F0dQWIdQWEEdQWEdBWIdBWEEdKWIdKWEEdKWEdGWIdGWEEdGWEdFWIdFWEEdPWIdPWEE
    :1E800aMENDE_KIKAKUI_SYLLABLE_M001_KIdM002_KAdM003_KUdM065_KEEdM095_KEdM076_KOOdM048_KOdM179_KUAdM004_WIdM005_WA
    dM006_WUdM126_WEEdM118_WEdM114_WOOdM045_WOdM194_WUIdM143_WEIdM061_WVIdM049_WVAdM139_WVEdM007_MINdM008_MAN
    dM009_MUNdM059_MENdM094_MONdM154_MUANdM189_MUENdM010_BIdM011_BAdM012_BUdM150_BEEdM097_BEdM103_BOOdM138_BOdM013_I
    dM014_AdM015_UdM163_EEdM100_EdM165_OOdM147_OdM137_EIdM131_INdM135_INdM195_ANdM178_ENdM019_SIdM020_SAdM021_SU
    dM162_SEEdM116_SEdM136_SOOdM079_SOdM196_SIAdM025_LIdM026_LAdM027_LUdM084_LEEdM073_LEdM054_LOOdM153_LO
    dM110_LONG_LEdM016_DIdM017_DAdM018_DUdM089_DEEdM180_DOOdM181_DOdM022_TIdM023_TAdM024_TUdM091_TEEdM055_TE
    dM104_TOOdM069_TOdM028_JIdM029_JAdM030_JUdM157_JEEdM113_JEdM160_JOOdM063_JOdM175_LONG_JOdM031_YIdM032_YAdM033_YU
    dM109_YEEdM080_YEdM141_YOOdM121_YOdM034_FIdM035_FAdM036_FUdM078_FEEdM075_FEdM133_FOOdM088_FOdM197_FUAdM101_FAN
    dM037_NINdM038_NANdM039_NUNdM117_NENdM169_NONdM176_HIdM041_HAdM186_HUdM040_HEEdM096_HEdM042_HOOdM140_HO
    dM083_HEEIdM128_HOOUdM053_HINdM130_HANdM087_HUNdM052_HENdM193_HONdM046_HUANdM090_NGGIdM043_NGGAdM082_NGGU
    dM115_NGGEEdM146_NGGEdM156_NGGOOdM120_NGGOdM159_NGGAAdM127_NGGUAdM086_LONG_NGGEdM106_LONG_NGGOOdM183_LONG_NGGO
    dM155_GIdM111_GAdM168_GUdM190_GEEdM166_GUEIdM167_GUANdM184_NGENdM057_NGONdM177_NGUANdM068_PIdM099_PAdM050_PU
    dM081_PEEdM051_PEdM102_POOdM066_POdM145_MBIdM062_MBAdM122_MBUdM047_MBEEdM188_MBEEdM072_MBEdM172_MBOOdM174_MBO
    dM187_MBUUdM161_LONG_MBEdM105_LONG_MBOOdM142_LONG_MBOdM132_KPIdM092_KPAdM074_KPUdM044_KPEEdM108_KPEdM112_KPOO
    dM158_KPOdM124_GBIdM056_GBAdM148_GBUdM093_GBEEdM107_GBEdM071_GBOOdM070_GBOdM171_RAdM123_NDIdM129_NDAdM125_NDU
    dM191_NDEEdM119_NDEdM067_NDOOdM064_NDOdM152_NJAdM192_NJUdM149_NJEEdM134_NJOOdM182_VIdM185_VAdM151_VUdM173_VEE
    dM085_VEdM144_VOOdM077_VOdM164_NYINdM058_NYANdM170_NYUNdM098_NYENdM060_NYON:1E8C7cDIGIT_ONEdTWOdTHREEdFOURdFIVE
    dSIXdSEVENdEIGHTdNINEcCOMBINING_NUMBER_TEENSeTENSeHUNDREDSeTHOUSANDSeTEN_THOUSANDSeHUNDRED_THOUSANDSeMILLIONS
    :1E900aADLAM_CAPITAL_LETTER_ALIFdDAALIdLAAMdMIIMdBAdSINNYIIYHEdPEdBHEdRAdEdFAdIdOdDHAdYHEdWAWdNUNdKAFdYAdUdJIIM
    dCHIdHAdQAAFdGAdNYAdTUdNHAdVAdKHAdGBEdZALdKPOdSHAbSMALL_LETTER_ALIFdDAALIdLAAMdMIIMdBAdSINNYIIYHEdPEdBHEdRAdEdFA
    dIdOdDHAdYHEdWAWdNUNdKAFdYAdUdJIIMdCHIdHAdQAAFdGAdNYAdTUdNHAdVAdKHAdGBEdZALdKPOdSHAbALIF_LENGTHENER
    bVOWEL_LENGTHENERbGEMINATION_MARKbHAMZAbCONSONANT_MODIFIERbGEMINATE_CONSONANT_MODIFIERbNUKTAbNASALIZATION_MARK
    :1E950bDIGIT_ZEROcONEcTWOcTHREEcFOURcFIVEcSIXcSEVENcEIGHTcNINE:1E95EbINITIAL_EXCLAMATION_MARKcQUESTION_MARK
    :1EC71aINDIC_SIYAQ_NUMBER_ONEdTWOdTHREEdFOURdFIVEdSIXdSEVENdEIGHTdNINEdTENdTWENTYdTHIRTYdFORTYdFIFTYdSIXTY
    dSEVENTYdEIGHTYdNINETYdONE_HUNDREDdTWO_HUNDREDdTHREE_HUNDREDdFOUR_HUNDREDdFIVE_HUNDREDdSIX_HUNDREDdSEVEN_HUNDRED
    dEIGHT_HUNDREDdNINE_HUNDREDdONE_THOUSANDdTWO_THOUSANDdTHREE_THOUSANDdFOUR_THOUSANDdFIVE_THOUSANDdSIX_THOUSAND
    dSEVEN_THOUSANDdEIGHT_THOUSANDdNINE_THOUSANDdTEN_THOUSANDdTWENTY_THOUSANDdTHIRTY_THOUSANDdFORTY_THOUSAND
    dFIFTY_THOUSANDdSIXTY_THOUSANDdSEVENTY_THOUSANDdEIGHTY_THOUSANDdNINETY_THOUSANDdLAKHdLAKHANcLAKH_MARK
    cNUMBER_KARORdKARORANdPREFIXED_ONEeTWOeTHREEeFOUReFIVEeSIXeSEVENeEIGHTeNINEcPLACEHOLDERcFRACTION_ONE_QUARTER
    eHALFdTHREE_QUARTERScRUPEE_MARKcNUMBER_ALTERNATE_ONEeTWOeTEN_THOUSANDcALTERNATE_LAKH_MARK
    :1ED01aOTTOMAN_SIYAQ_NUMBER_ONEdTWOdTHREEdFOURdFIVEdSIXdSEVENdEIGHTdNINEdTENdTWENTYdTHIRTYdFORTYdFIFTYdSIXTY
    dSEVENTYdEIGHTYdNINETYdONE_HUNDREDdTWO_HUNDREDdTHREE_HUNDREDdFOUR_HUNDREDdFIVE_HUNDREDdSIX_HUNDREDdSEVEN_HUNDRED
    dEIGHT_HUNDREDdNINE_HUNDREDdONE_THOUSANDdTWO_THOUSANDdTHREE_THOUSANDdFOUR_THOUSANDdFIVE_THOUSANDdSIX_THOUSAND
    dSEVEN_THOUSANDdEIGHT_THOUSANDdNINE_THOUSANDdTEN_THOUSANDdTWENTY_THOUSANDdTHIRTY_THOUSANDdFORTY_THOUSAND
    dFIFTY_THOUSANDdSIXTY_THOUSANDdSEVENTY_THOUSANDdEIGHTY_THOUSANDdNINETY_THOUSANDcMARRATANcALTERNATE_NUMBER_TWO
    eTHREEeFOUReFIVEeSIXeSEVENeEIGHTeNINEeTENeFOUR_HUNDREDeSIX_HUNDREDeTWO_THOUSANDeTEN_THOUSANDcFRACTION_ONE_HALF
    eSIXTH:1EE00aARABIC_MATHEMATICAL_ALEFcBEHcJEEMcDAL:1EE05cWAWcZAINcHAHcTAHcYEHcKAFcLAMcMEEMcNOONcSEENcAINcFEHcSAD
    cQAFcREHcSHEENcTEHcTHEHcKHAHcTHALcDADcZAHcGHAINcDOTLESS_BEHdNOONdFEHdQAF:1EE21cINITIAL_BEHdJEEM:1EE24dHEH
    :1EE27dHAH:1EE29dYEHdKAFdLAMdMEEMdNOONdSEENdAINdFEHdSADdQAF:1EE34dSHEENdTEHdTHEHdKHAH:1EE39dDAD:1EE3BdGHAIN
    :1EE42cTAILED_JEEM:1EE47dHAH:1EE49dYEH:1EE4BdLAM:1EE4DdNOONdSEENdAIN:1EE51dSADdQAF:1EE54dSHEEN:1EE57dKHAH
    :1EE59dDAD:1EE5BdGHAIN:1EE5DdDOTLESS_NOON:1EE5FeQAF:1EE61cSTRETCHED_BEHdJEEM:1EE64dHEH:1EE67dHAHdTAHdYEHdKAF
    :1EE6CdMEEMdNOONdSEENdAINdFEHdSADdQAF:1EE74dSHEENdTEHdTHEHdKHAH:1EE79dDADdZAHdGHAINdDOTLESS_BEH:1EE7EeFEH
    :1EE80cLOOPED_ALEFdBEHdJEEMdDALdHEHdWAWdZAINdHAHdTAHdYEH:1EE8BdLAMdMEEMdNOONdSEENdAINdFEHdSADdQAFdREHdSHEENdTEH
    dTHEHdKHAHdTHALdDADdZAHdGHAIN:1EEA1cDOUBLE-STRUCK_BEHdJEEMdDAL:1EEA5dWAWdZAINdHAHdTAHdYEH:1EEABdLAMdMEEMdNOON
    dSEENdAINdFEHdSADdQAFdREHdSHEENdTEHdTHEHdKHAHdTHALdDADdZAHdGHAIN:1EEF0cOPERATOR_MEEM_WITH_HAH_WITH_TATWEEL
    dHAH_WITH_DAL"

end NullContract.CharName
