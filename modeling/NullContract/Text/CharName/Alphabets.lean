namespace NullContract.CharName

def alphabetsNames : String :=
    ":20aSPACEaEXCLAMATION_MARKaQUOTATION_MARKaNUMBER_SIGNaDOLLAR_SIGNaPERCENT_SIGNaAMPERSANDaAPOSTROPHE
    aLEFT_PARENTHESISaRIGHT_PARENTHESISaASTERISKaPLUS_SIGNaCOMMAaHYPHEN-MINUSaFULL_STOPaSOLIDUSaDIGIT_ZERObONEbTWO
    bTHREEbFOURbFIVEbSIXbSEVENbEIGHTbNINEaCOLONaSEMICOLONaLESS-THAN_SIGNaEQUALS_SIGNaGREATER-THAN_SIGNaQUESTION_MARK
    aCOMMERCIAL_ATaLATIN_CAPITAL_LETTER_AdBdCdDdEdFdGdHdIdJdKdLdMdNdOdPdQdRdSdTdUdVdWdXdYdZaLEFT_SQUARE_BRACKET
    aREVERSE_SOLIDUSaRIGHT_SQUARE_BRACKETaCIRCUMFLEX_ACCENTaLOW_LINEaGRAVE_ACCENTaLATIN_SMALL_LETTER_AdBdCdDdEdFdGdH
    dIdJdKdLdMdNdOdPdQdRdSdTdUdVdWdXdYdZaLEFT_CURLY_BRACKETaVERTICAL_LINEaRIGHT_CURLY_BRACKETaTILDE
    :A0aNO-BREAK_SPACEaINVERTED_EXCLAMATION_MARKaCENT_SIGNaPOUND_SIGNaCURRENCY_SIGNaYEN_SIGNaBROKEN_BARaSECTION_SIGN
    aDIAERESISaCOPYRIGHT_SIGNaFEMININE_ORDINAL_INDICATORaLEFT-POINTING_DOUBLE_ANGLE_QUOTATION_MARKaNOT_SIGN
    aSOFT_HYPHENaREGISTERED_SIGNaMACRONaDEGREE_SIGNaPLUS-MINUS_SIGNaSUPERSCRIPT_TWObTHREEaACUTE_ACCENTaMICRO_SIGN
    aPILCROW_SIGNaMIDDLE_DOTaCEDILLAaSUPERSCRIPT_ONEaMASCULINE_ORDINAL_INDICATOR
    aRIGHT-POINTING_DOUBLE_ANGLE_QUOTATION_MARKaVULGAR_FRACTION_ONE_QUARTERdHALFcTHREE_QUARTERS
    aINVERTED_QUESTION_MARKaLATIN_CAPITAL_LETTER_A_WITH_GRAVEfACUTEfCIRCUMFLEXfTILDEfDIAERESISfRING_ABOVEdAE
    dC_WITH_CEDILLAdE_WITH_GRAVEfACUTEfCIRCUMFLEXfDIAERESISdI_WITH_GRAVEfACUTEfCIRCUMFLEXfDIAERESISdETHdN_WITH_TILDE
    dO_WITH_GRAVEfACUTEfCIRCUMFLEXfTILDEfDIAERESISaMULTIPLICATION_SIGNaLATIN_CAPITAL_LETTER_O_WITH_STROKE
    dU_WITH_GRAVEfACUTEfCIRCUMFLEXfDIAERESISdY_WITH_ACUTEdTHORNbSMALL_LETTER_SHARP_SdA_WITH_GRAVEfACUTEfCIRCUMFLEX
    fTILDEfDIAERESISfRING_ABOVEdAEdC_WITH_CEDILLAdE_WITH_GRAVEfACUTEfCIRCUMFLEXfDIAERESISdI_WITH_GRAVEfACUTE
    fCIRCUMFLEXfDIAERESISdETHdN_WITH_TILDEdO_WITH_GRAVEfACUTEfCIRCUMFLEXfTILDEfDIAERESISaDIVISION_SIGN
    aLATIN_SMALL_LETTER_O_WITH_STROKEdU_WITH_GRAVEfACUTEfCIRCUMFLEXfDIAERESISdY_WITH_ACUTEdTHORNdY_WITH_DIAERESIS
    bCAPITAL_LETTER_A_WITH_MACRONbSMALL_LETTER_A_WITH_MACRONbCAPITAL_LETTER_A_WITH_BREVEbSMALL_LETTER_A_WITH_BREVE
    bCAPITAL_LETTER_A_WITH_OGONEKbSMALL_LETTER_A_WITH_OGONEKbCAPITAL_LETTER_C_WITH_ACUTEbSMALL_LETTER_C_WITH_ACUTE
    bCAPITAL_LETTER_C_WITH_CIRCUMFLEXbSMALL_LETTER_C_WITH_CIRCUMFLEXbCAPITAL_LETTER_C_WITH_DOT_ABOVE
    bSMALL_LETTER_C_WITH_DOT_ABOVEbCAPITAL_LETTER_C_WITH_CARONbSMALL_LETTER_C_WITH_CARONbCAPITAL_LETTER_D_WITH_CARON
    bSMALL_LETTER_D_WITH_CARONbCAPITAL_LETTER_D_WITH_STROKEbSMALL_LETTER_D_WITH_STROKEbCAPITAL_LETTER_E_WITH_MACRON
    bSMALL_LETTER_E_WITH_MACRONbCAPITAL_LETTER_E_WITH_BREVEbSMALL_LETTER_E_WITH_BREVE
    bCAPITAL_LETTER_E_WITH_DOT_ABOVEbSMALL_LETTER_E_WITH_DOT_ABOVEbCAPITAL_LETTER_E_WITH_OGONEK
    bSMALL_LETTER_E_WITH_OGONEKbCAPITAL_LETTER_E_WITH_CARONbSMALL_LETTER_E_WITH_CARON
    bCAPITAL_LETTER_G_WITH_CIRCUMFLEXbSMALL_LETTER_G_WITH_CIRCUMFLEXbCAPITAL_LETTER_G_WITH_BREVE
    bSMALL_LETTER_G_WITH_BREVEbCAPITAL_LETTER_G_WITH_DOT_ABOVEbSMALL_LETTER_G_WITH_DOT_ABOVE
    bCAPITAL_LETTER_G_WITH_CEDILLAbSMALL_LETTER_G_WITH_CEDILLAbCAPITAL_LETTER_H_WITH_CIRCUMFLEX
    bSMALL_LETTER_H_WITH_CIRCUMFLEXbCAPITAL_LETTER_H_WITH_STROKEbSMALL_LETTER_H_WITH_STROKE
    bCAPITAL_LETTER_I_WITH_TILDEbSMALL_LETTER_I_WITH_TILDEbCAPITAL_LETTER_I_WITH_MACRONbSMALL_LETTER_I_WITH_MACRON
    bCAPITAL_LETTER_I_WITH_BREVEbSMALL_LETTER_I_WITH_BREVEbCAPITAL_LETTER_I_WITH_OGONEKbSMALL_LETTER_I_WITH_OGONEK
    bCAPITAL_LETTER_I_WITH_DOT_ABOVEbSMALL_LETTER_DOTLESS_IbCAPITAL_LIGATURE_IJbSMALL_LIGATURE_IJ
    bCAPITAL_LETTER_J_WITH_CIRCUMFLEXbSMALL_LETTER_J_WITH_CIRCUMFLEXbCAPITAL_LETTER_K_WITH_CEDILLA
    bSMALL_LETTER_K_WITH_CEDILLAdKRAbCAPITAL_LETTER_L_WITH_ACUTEbSMALL_LETTER_L_WITH_ACUTE
    bCAPITAL_LETTER_L_WITH_CEDILLAbSMALL_LETTER_L_WITH_CEDILLAbCAPITAL_LETTER_L_WITH_CARONbSMALL_LETTER_L_WITH_CARON
    bCAPITAL_LETTER_L_WITH_MIDDLE_DOTbSMALL_LETTER_L_WITH_MIDDLE_DOTbCAPITAL_LETTER_L_WITH_STROKE
    bSMALL_LETTER_L_WITH_STROKEbCAPITAL_LETTER_N_WITH_ACUTEbSMALL_LETTER_N_WITH_ACUTEbCAPITAL_LETTER_N_WITH_CEDILLA
    bSMALL_LETTER_N_WITH_CEDILLAbCAPITAL_LETTER_N_WITH_CARONbSMALL_LETTER_N_WITH_CARONePRECEDED_BY_APOSTROPHE
    bCAPITAL_LETTER_ENGbSMALL_LETTER_ENGbCAPITAL_LETTER_O_WITH_MACRONbSMALL_LETTER_O_WITH_MACRON
    bCAPITAL_LETTER_O_WITH_BREVEbSMALL_LETTER_O_WITH_BREVEbCAPITAL_LETTER_O_WITH_DOUBLE_ACUTE
    bSMALL_LETTER_O_WITH_DOUBLE_ACUTEbCAPITAL_LIGATURE_OEbSMALL_LIGATURE_OEbCAPITAL_LETTER_R_WITH_ACUTE
    bSMALL_LETTER_R_WITH_ACUTEbCAPITAL_LETTER_R_WITH_CEDILLAbSMALL_LETTER_R_WITH_CEDILLAbCAPITAL_LETTER_R_WITH_CARON
    bSMALL_LETTER_R_WITH_CARONbCAPITAL_LETTER_S_WITH_ACUTEbSMALL_LETTER_S_WITH_ACUTE
    bCAPITAL_LETTER_S_WITH_CIRCUMFLEXbSMALL_LETTER_S_WITH_CIRCUMFLEXbCAPITAL_LETTER_S_WITH_CEDILLA
    bSMALL_LETTER_S_WITH_CEDILLAbCAPITAL_LETTER_S_WITH_CARONbSMALL_LETTER_S_WITH_CARONbCAPITAL_LETTER_T_WITH_CEDILLA
    bSMALL_LETTER_T_WITH_CEDILLAbCAPITAL_LETTER_T_WITH_CARONbSMALL_LETTER_T_WITH_CARONbCAPITAL_LETTER_T_WITH_STROKE
    bSMALL_LETTER_T_WITH_STROKEbCAPITAL_LETTER_U_WITH_TILDEbSMALL_LETTER_U_WITH_TILDEbCAPITAL_LETTER_U_WITH_MACRON
    bSMALL_LETTER_U_WITH_MACRONbCAPITAL_LETTER_U_WITH_BREVEbSMALL_LETTER_U_WITH_BREVE
    bCAPITAL_LETTER_U_WITH_RING_ABOVEbSMALL_LETTER_U_WITH_RING_ABOVEbCAPITAL_LETTER_U_WITH_DOUBLE_ACUTE
    bSMALL_LETTER_U_WITH_DOUBLE_ACUTEbCAPITAL_LETTER_U_WITH_OGONEKbSMALL_LETTER_U_WITH_OGONEK
    bCAPITAL_LETTER_W_WITH_CIRCUMFLEXbSMALL_LETTER_W_WITH_CIRCUMFLEXbCAPITAL_LETTER_Y_WITH_CIRCUMFLEX
    bSMALL_LETTER_Y_WITH_CIRCUMFLEXbCAPITAL_LETTER_Y_WITH_DIAERESISdZ_WITH_ACUTEbSMALL_LETTER_Z_WITH_ACUTE
    bCAPITAL_LETTER_Z_WITH_DOT_ABOVEbSMALL_LETTER_Z_WITH_DOT_ABOVEbCAPITAL_LETTER_Z_WITH_CARON
    bSMALL_LETTER_Z_WITH_CARONdLONG_SdB_WITH_STROKEbCAPITAL_LETTER_B_WITH_HOOKfTOPBARbSMALL_LETTER_B_WITH_TOPBAR
    bCAPITAL_LETTER_TONE_SIXbSMALL_LETTER_TONE_SIXbCAPITAL_LETTER_OPEN_OdC_WITH_HOOKbSMALL_LETTER_C_WITH_HOOK
    bCAPITAL_LETTER_AFRICAN_DdD_WITH_HOOKfTOPBARbSMALL_LETTER_D_WITH_TOPBARdTURNED_DELTAbCAPITAL_LETTER_REVERSED_E
    dSCHWAdOPEN_EdF_WITH_HOOKbSMALL_LETTER_F_WITH_HOOKbCAPITAL_LETTER_G_WITH_HOOKdGAMMAbSMALL_LETTER_HV
    bCAPITAL_LETTER_IOTAdI_WITH_STROKEdK_WITH_HOOKbSMALL_LETTER_K_WITH_HOOKdL_WITH_BARdLAMBDA_WITH_STROKE
    bCAPITAL_LETTER_TURNED_MdN_WITH_LEFT_HOOKbSMALL_LETTER_N_WITH_LONG_RIGHT_LEGbCAPITAL_LETTER_O_WITH_MIDDLE_TILDE
    fHORNbSMALL_LETTER_O_WITH_HORNbCAPITAL_LETTER_OIbSMALL_LETTER_OIbCAPITAL_LETTER_P_WITH_HOOK
    bSMALL_LETTER_P_WITH_HOOKbLETTER_YRbCAPITAL_LETTER_TONE_TWObSMALL_LETTER_TONE_TWObCAPITAL_LETTER_ESH
    bLETTER_REVERSED_ESH_LOOPbSMALL_LETTER_T_WITH_PALATAL_HOOKbCAPITAL_LETTER_T_WITH_HOOKbSMALL_LETTER_T_WITH_HOOK
    bCAPITAL_LETTER_T_WITH_RETROFLEX_HOOKdU_WITH_HORNbSMALL_LETTER_U_WITH_HORNbCAPITAL_LETTER_UPSILONdV_WITH_HOOK
    dY_WITH_HOOKbSMALL_LETTER_Y_WITH_HOOKbCAPITAL_LETTER_Z_WITH_STROKEbSMALL_LETTER_Z_WITH_STROKEbCAPITAL_LETTER_EZH
    eREVERSEDbSMALL_LETTER_EZH_REVERSEDeWITH_TAILbLETTER_TWO_WITH_STROKEbCAPITAL_LETTER_TONE_FIVE
    bSMALL_LETTER_TONE_FIVEbLETTER_INVERTED_GLOTTAL_STOP_WITH_STROKEcWYNNcDENTAL_CLICKcLATERAL_CLICKcALVEOLAR_CLICK
    cRETROFLEX_CLICKbCAPITAL_LETTER_DZ_WITH_CARONdD_WITH_SMALL_LETTER_Z_WITH_CARONbSMALL_LETTER_DZ_WITH_CARON
    bCAPITAL_LETTER_LJdL_WITH_SMALL_LETTER_JbSMALL_LETTER_LJbCAPITAL_LETTER_NJdN_WITH_SMALL_LETTER_JbSMALL_LETTER_NJ
    bCAPITAL_LETTER_A_WITH_CARONbSMALL_LETTER_A_WITH_CARONbCAPITAL_LETTER_I_WITH_CARONbSMALL_LETTER_I_WITH_CARON
    bCAPITAL_LETTER_O_WITH_CARONbSMALL_LETTER_O_WITH_CARONbCAPITAL_LETTER_U_WITH_CARONbSMALL_LETTER_U_WITH_CARON
    bCAPITAL_LETTER_U_WITH_DIAERESIS_AND_MACRONbSMALL_LETTER_U_WITH_DIAERESIS_AND_MACRON
    bCAPITAL_LETTER_U_WITH_DIAERESIS_AND_ACUTEbSMALL_LETTER_U_WITH_DIAERESIS_AND_ACUTE
    bCAPITAL_LETTER_U_WITH_DIAERESIS_AND_CARONbSMALL_LETTER_U_WITH_DIAERESIS_AND_CARON
    bCAPITAL_LETTER_U_WITH_DIAERESIS_AND_GRAVEbSMALL_LETTER_U_WITH_DIAERESIS_AND_GRAVEdTURNED_E
    bCAPITAL_LETTER_A_WITH_DIAERESIS_AND_MACRONbSMALL_LETTER_A_WITH_DIAERESIS_AND_MACRON
    bCAPITAL_LETTER_A_WITH_DOT_ABOVE_AND_MACRONbSMALL_LETTER_A_WITH_DOT_ABOVE_AND_MACRON
    bCAPITAL_LETTER_AE_WITH_MACRONbSMALL_LETTER_AE_WITH_MACRONbCAPITAL_LETTER_G_WITH_STROKE
    bSMALL_LETTER_G_WITH_STROKEbCAPITAL_LETTER_G_WITH_CARONbSMALL_LETTER_G_WITH_CARONbCAPITAL_LETTER_K_WITH_CARON
    bSMALL_LETTER_K_WITH_CARONbCAPITAL_LETTER_O_WITH_OGONEKbSMALL_LETTER_O_WITH_OGONEK
    bCAPITAL_LETTER_O_WITH_OGONEK_AND_MACRONbSMALL_LETTER_O_WITH_OGONEK_AND_MACRONbCAPITAL_LETTER_EZH_WITH_CARON
    bSMALL_LETTER_EZH_WITH_CARONdJ_WITH_CARONbCAPITAL_LETTER_DZdD_WITH_SMALL_LETTER_ZbSMALL_LETTER_DZ
    bCAPITAL_LETTER_G_WITH_ACUTEbSMALL_LETTER_G_WITH_ACUTEbCAPITAL_LETTER_HWAIRdWYNNdN_WITH_GRAVE
    bSMALL_LETTER_N_WITH_GRAVEbCAPITAL_LETTER_A_WITH_RING_ABOVE_AND_ACUTEbSMALL_LETTER_A_WITH_RING_ABOVE_AND_ACUTE
    bCAPITAL_LETTER_AE_WITH_ACUTEbSMALL_LETTER_AE_WITH_ACUTEbCAPITAL_LETTER_O_WITH_STROKE_AND_ACUTE
    bSMALL_LETTER_O_WITH_STROKE_AND_ACUTEbCAPITAL_LETTER_A_WITH_DOUBLE_GRAVEbSMALL_LETTER_A_WITH_DOUBLE_GRAVE
    bCAPITAL_LETTER_A_WITH_INVERTED_BREVEbSMALL_LETTER_A_WITH_INVERTED_BREVEbCAPITAL_LETTER_E_WITH_DOUBLE_GRAVE
    bSMALL_LETTER_E_WITH_DOUBLE_GRAVEbCAPITAL_LETTER_E_WITH_INVERTED_BREVEbSMALL_LETTER_E_WITH_INVERTED_BREVE
    bCAPITAL_LETTER_I_WITH_DOUBLE_GRAVEbSMALL_LETTER_I_WITH_DOUBLE_GRAVEbCAPITAL_LETTER_I_WITH_INVERTED_BREVE
    bSMALL_LETTER_I_WITH_INVERTED_BREVEbCAPITAL_LETTER_O_WITH_DOUBLE_GRAVEbSMALL_LETTER_O_WITH_DOUBLE_GRAVE
    bCAPITAL_LETTER_O_WITH_INVERTED_BREVEbSMALL_LETTER_O_WITH_INVERTED_BREVEbCAPITAL_LETTER_R_WITH_DOUBLE_GRAVE
    bSMALL_LETTER_R_WITH_DOUBLE_GRAVEbCAPITAL_LETTER_R_WITH_INVERTED_BREVEbSMALL_LETTER_R_WITH_INVERTED_BREVE
    bCAPITAL_LETTER_U_WITH_DOUBLE_GRAVEbSMALL_LETTER_U_WITH_DOUBLE_GRAVEbCAPITAL_LETTER_U_WITH_INVERTED_BREVE
    bSMALL_LETTER_U_WITH_INVERTED_BREVEbCAPITAL_LETTER_S_WITH_COMMA_BELOWbSMALL_LETTER_S_WITH_COMMA_BELOW
    bCAPITAL_LETTER_T_WITH_COMMA_BELOWbSMALL_LETTER_T_WITH_COMMA_BELOWbCAPITAL_LETTER_YOGHbSMALL_LETTER_YOGH
    bCAPITAL_LETTER_H_WITH_CARONbSMALL_LETTER_H_WITH_CARONbCAPITAL_LETTER_N_WITH_LONG_RIGHT_LEG
    bSMALL_LETTER_D_WITH_CURLbCAPITAL_LETTER_OUbSMALL_LETTER_OUbCAPITAL_LETTER_Z_WITH_HOOKbSMALL_LETTER_Z_WITH_HOOK
    bCAPITAL_LETTER_A_WITH_DOT_ABOVEbSMALL_LETTER_A_WITH_DOT_ABOVEbCAPITAL_LETTER_E_WITH_CEDILLA
    bSMALL_LETTER_E_WITH_CEDILLAbCAPITAL_LETTER_O_WITH_DIAERESIS_AND_MACRONbSMALL_LETTER_O_WITH_DIAERESIS_AND_MACRON
    bCAPITAL_LETTER_O_WITH_TILDE_AND_MACRONbSMALL_LETTER_O_WITH_TILDE_AND_MACRONbCAPITAL_LETTER_O_WITH_DOT_ABOVE
    bSMALL_LETTER_O_WITH_DOT_ABOVEbCAPITAL_LETTER_O_WITH_DOT_ABOVE_AND_MACRON
    bSMALL_LETTER_O_WITH_DOT_ABOVE_AND_MACRONbCAPITAL_LETTER_Y_WITH_MACRONbSMALL_LETTER_Y_WITH_MACRONdL_WITH_CURL
    dN_WITH_CURLdT_WITH_CURLdDOTLESS_JdDB_DIGRAPHdQP_DIGRAPHbCAPITAL_LETTER_A_WITH_STROKEdC_WITH_STROKE
    bSMALL_LETTER_C_WITH_STROKEbCAPITAL_LETTER_L_WITH_BARdT_WITH_DIAGONAL_STROKEbSMALL_LETTER_S_WITH_SWASH_TAIL
    dZ_WITH_SWASH_TAILbCAPITAL_LETTER_GLOTTAL_STOPbSMALL_LETTER_GLOTTAL_STOPbCAPITAL_LETTER_B_WITH_STROKEdU_BAR
    dTURNED_VdE_WITH_STROKEbSMALL_LETTER_E_WITH_STROKEbCAPITAL_LETTER_J_WITH_STROKEbSMALL_LETTER_J_WITH_STROKE
    bCAPITAL_LETTER_SMALL_Q_WITH_HOOK_TAILbSMALL_LETTER_Q_WITH_HOOK_TAILbCAPITAL_LETTER_R_WITH_STROKE
    bSMALL_LETTER_R_WITH_STROKEbCAPITAL_LETTER_Y_WITH_STROKEbSMALL_LETTER_Y_WITH_STROKEdTURNED_AdALPHAdTURNED_ALPHA
    dB_WITH_HOOKdOPEN_OdC_WITH_CURLdD_WITH_TAILfHOOKdREVERSED_EdSCHWAeWITH_HOOKdOPEN_EdREVERSED_OPEN_EgWITH_HOOK
    dCLOSED_REVERSED_OPEN_EdDOTLESS_J_WITH_STROKEdG_WITH_HOOKdSCRIPT_GbLETTER_SMALL_CAPITAL_GbSMALL_LETTER_GAMMA
    dRAMS_HORNdTURNED_HdH_WITH_HOOKdHENG_WITH_HOOKdI_WITH_STROKEdIOTAbLETTER_SMALL_CAPITAL_I
    bSMALL_LETTER_L_WITH_MIDDLE_TILDEfBELTfRETROFLEX_HOOKdLEZHdTURNED_MfWITH_LONG_LEGdM_WITH_HOOKdN_WITH_LEFT_HOOK
    fRETROFLEX_HOOKbLETTER_SMALL_CAPITAL_NbSMALL_LETTER_BARRED_ObLETTER_SMALL_CAPITAL_OEbSMALL_LETTER_CLOSED_OMEGA
    dPHIdTURNED_RfWITH_LONG_LEGgHOOKdR_WITH_LONG_LEGfTAILfFISHHOOKdREVERSED_R_WITH_FISHHOOKbLETTER_SMALL_CAPITAL_R
    eINVERTED_RbSMALL_LETTER_S_WITH_HOOKdESHdDOTLESS_J_WITH_STROKE_AND_HOOKdSQUAT_REVERSED_ESHdESH_WITH_CURL
    dTURNED_TdT_WITH_RETROFLEX_HOOKdU_BARdUPSILONdV_WITH_HOOKdTURNED_VeWeYbLETTER_SMALL_CAPITAL_Y
    bSMALL_LETTER_Z_WITH_RETROFLEX_HOOKfCURLdEZHeWITH_CURLbLETTER_GLOTTAL_STOPcPHARYNGEAL_VOICED_FRICATIVE
    cINVERTED_GLOTTAL_STOPcSTRETCHED_CcBILABIAL_CLICKcSMALL_CAPITAL_BbSMALL_LETTER_CLOSED_OPEN_E
    bLETTER_SMALL_CAPITAL_G_WITH_HOOKeHbSMALL_LETTER_J_WITH_CROSSED-TAILdTURNED_KbLETTER_SMALL_CAPITAL_L
    bSMALL_LETTER_Q_WITH_HOOKbLETTER_GLOTTAL_STOP_WITH_STROKEcREVERSED_GLOTTAL_STOP_WITH_STROKE
    bSMALL_LETTER_DZ_DIGRAPHdDEZH_DIGRAPHdDZ_DIGRAPH_WITH_CURLdTS_DIGRAPHdTESH_DIGRAPHdTC_DIGRAPH_WITH_CURL
    dFENG_DIGRAPHdLS_DIGRAPHdLZ_DIGRAPHbLETTER_BILABIAL_PERCUSSIVEcBIDENTAL_PERCUSSIVE
    bSMALL_LETTER_TURNED_H_WITH_FISHHOOKhAND_TAILaMODIFIER_LETTER_SMALL_HeWITH_HOOKdJdRdTURNED_RfWITH_HOOK
    dCAPITAL_INVERTED_RdWdYcPRIMEcDOUBLE_PRIMEcTURNED_COMMAcAPOSTROPHEcREVERSED_COMMAcRIGHT_HALF_RINGcLEFT_HALF_RING
    cGLOTTAL_STOPcREVERSED_GLOTTAL_STOPcLEFT_ARROWHEADcRIGHT_ARROWHEADcUP_ARROWHEADcDOWN_ARROWHEADcCIRCUMFLEX_ACCENT
    aCARONaMODIFIER_LETTER_VERTICAL_LINEcMACRONcACUTE_ACCENTcGRAVE_ACCENTcLOW_VERTICAL_LINEdMACRONdGRAVE_ACCENT
    dACUTE_ACCENTcTRIANGULAR_COLONcHALF_TRIANGULAR_COLONcCENTRED_RIGHT_HALF_RINGdLEFT_HALF_RINGcUP_TACKcDOWN_TACK
    cPLUS_SIGNcMINUS_SIGNaBREVEaDOT_ABOVEaRING_ABOVEaOGONEKaSMALL_TILDEaDOUBLE_ACUTE_ACCENT
    aMODIFIER_LETTER_RHOTIC_HOOKcCROSS_ACCENTcSMALL_GAMMAdLdSdXdREVERSED_GLOTTAL_STOPcEXTRA-HIGH_TONE_BAR
    cHIGH_TONE_BARcMID_TONE_BARcLOW_TONE_BARcEXTRA-LOW_TONE_BARcYIN_DEPARTING_TONE_MARKcYANG_DEPARTING_TONE_MARK
    cVOICINGcUNASPIRATEDcDOUBLE_APOSTROPHEcLOW_DOWN_ARROWHEADdUP_ARROWHEADdLEFT_ARROWHEADdRIGHT_ARROWHEADdRING
    cMIDDLE_GRAVE_ACCENTdDOUBLE_GRAVE_ACCENTeACUTE_ACCENTcLOW_TILDEcRAISED_COLONcBEGIN_HIGH_TONEcEND_HIGH_TONE
    cBEGIN_LOW_TONEcEND_LOW_TONEcSHELFcOPEN_SHELFcLOW_LEFT_ARROWaCOMBINING_GRAVE_ACCENTbACUTE_ACCENT
    bCIRCUMFLEX_ACCENTbTILDEbMACRONbOVERLINEbBREVEbDOT_ABOVEbDIAERESISbHOOK_ABOVEbRING_ABOVEbDOUBLE_ACUTE_ACCENT
    bCARONbVERTICAL_LINE_ABOVEbDOUBLE_VERTICAL_LINE_ABOVEcGRAVE_ACCENTbCANDRABINDUbINVERTED_BREVEbTURNED_COMMA_ABOVE
    bCOMMA_ABOVEbREVERSED_COMMA_ABOVEbCOMMA_ABOVE_RIGHTbGRAVE_ACCENT_BELOWbACUTE_ACCENT_BELOWbLEFT_TACK_BELOW
    bRIGHT_TACK_BELOWbLEFT_ANGLE_ABOVEbHORNbLEFT_HALF_RING_BELOWbUP_TACK_BELOWbDOWN_TACK_BELOWbPLUS_SIGN_BELOW
    bMINUS_SIGN_BELOWbPALATALIZED_HOOK_BELOWbRETROFLEX_HOOK_BELOWbDOT_BELOWbDIAERESIS_BELOWbRING_BELOWbCOMMA_BELOW
    bCEDILLAbOGONEKbVERTICAL_LINE_BELOWbBRIDGE_BELOWbINVERTED_DOUBLE_ARCH_BELOWbCARON_BELOWbCIRCUMFLEX_ACCENT_BELOW
    bBREVE_BELOWbINVERTED_BREVE_BELOWbTILDE_BELOWbMACRON_BELOWbLOW_LINEbDOUBLE_LOW_LINEbTILDE_OVERLAY
    bSHORT_STROKE_OVERLAYbLONG_STROKE_OVERLAYbSHORT_SOLIDUS_OVERLAYbLONG_SOLIDUS_OVERLAYbRIGHT_HALF_RING_BELOW
    bINVERTED_BRIDGE_BELOWbSQUARE_BELOWbSEAGULL_BELOWbX_ABOVEbVERTICAL_TILDEbDOUBLE_OVERLINEbGRAVE_TONE_MARK
    bACUTE_TONE_MARKbGREEK_PERISPOMENIcKORONIScDIALYTIKA_TONOScYPOGEGRAMMENIbBRIDGE_ABOVEbEQUALS_SIGN_BELOW
    bDOUBLE_VERTICAL_LINE_BELOWbLEFT_ANGLE_BELOWbNOT_TILDE_ABOVEbHOMOTHETIC_ABOVEbALMOST_EQUAL_TO_ABOVE
    bLEFT_RIGHT_ARROW_BELOWbUPWARDS_ARROW_BELOWbGRAPHEME_JOINERbRIGHT_ARROWHEAD_ABOVEbLEFT_HALF_RING_ABOVEbFERMATA
    bX_BELOWbLEFT_ARROWHEAD_BELOWbRIGHT_ARROWHEAD_BELOWdAND_UP_ARROWHEAD_BELOWcHALF_RING_ABOVEbDOT_ABOVE_RIGHT
    bASTERISK_BELOWbDOUBLE_RING_BELOWbZIGZAG_ABOVEbDOUBLE_BREVE_BELOWcBREVEcMACRONdBELOWcTILDEcINVERTED_BREVE
    cRIGHTWARDS_ARROW_BELOWbLATIN_SMALL_LETTER_AeEeIeOeUeCeDeHeMeReTeVeXaGREEK_CAPITAL_LETTER_HETAbSMALL_LETTER_HETA
    bCAPITAL_LETTER_ARCHAIC_SAMPIbSMALL_LETTER_ARCHAIC_SAMPIbNUMERAL_SIGNbLOWER_NUMERAL_SIGN
    bCAPITAL_LETTER_PAMPHYLIAN_DIGAMMAbSMALL_LETTER_PAMPHYLIAN_DIGAMMA:37AbYPOGEGRAMMENI
    bSMALL_REVERSED_LUNATE_SIGMA_SYMBOLcDOTTED_LUNATE_SIGMA_SYMBOLcREVERSED_DOTTED_LUNATE_SIGMA_SYMBOLbQUESTION_MARK
    bCAPITAL_LETTER_YOT:384bTONOSbDIALYTIKA_TONOSbCAPITAL_LETTER_ALPHA_WITH_TONOSbANO_TELEIA
    bCAPITAL_LETTER_EPSILON_WITH_TONOSdETA_WITH_TONOSdIOTA_WITH_TONOS:38CdOMICRON_WITH_TONOS:38EdUPSILON_WITH_TONOS
    dOMEGA_WITH_TONOSbSMALL_LETTER_IOTA_WITH_DIALYTIKA_AND_TONOSbCAPITAL_LETTER_ALPHAdBETAdGAMMAdDELTAdEPSILONdZETA
    dETAdTHETAdIOTAdKAPPAdLAMDAdMUdNUdXIdOMICRONdPIdRHO:3A3dSIGMAdTAUdUPSILONdPHIdCHIdPSIdOMEGAdIOTA_WITH_DIALYTIKA
    dUPSILON_WITH_DIALYTIKAbSMALL_LETTER_ALPHA_WITH_TONOSdEPSILON_WITH_TONOSdETA_WITH_TONOSdIOTA_WITH_TONOS
    dUPSILON_WITH_DIALYTIKA_AND_TONOSdALPHAdBETAdGAMMAdDELTAdEPSILONdZETAdETAdTHETAdIOTAdKAPPAdLAMDAdMUdNUdXI
    dOMICRONdPIdRHOdFINAL_SIGMAdSIGMAdTAUdUPSILONdPHIdCHIdPSIdOMEGAdIOTA_WITH_DIALYTIKAdUPSILON_WITH_DIALYTIKA
    dOMICRON_WITH_TONOSdUPSILON_WITH_TONOSdOMEGA_WITH_TONOSbCAPITAL_KAI_SYMBOLbBETA_SYMBOLbTHETA_SYMBOL
    bUPSILON_WITH_HOOK_SYMBOLdACUTE_AND_HOOK_SYMBOLdDIAERESIS_AND_HOOK_SYMBOLbPHI_SYMBOLbPI_SYMBOLbKAI_SYMBOL
    bLETTER_ARCHAIC_KOPPAbSMALL_LETTER_ARCHAIC_KOPPAbLETTER_STIGMAbSMALL_LETTER_STIGMAbLETTER_DIGAMMA
    bSMALL_LETTER_DIGAMMAbLETTER_KOPPAbSMALL_LETTER_KOPPAbLETTER_SAMPIbSMALL_LETTER_SAMPIaCOPTIC_CAPITAL_LETTER_SHEI
    bSMALL_LETTER_SHEIbCAPITAL_LETTER_FEIbSMALL_LETTER_FEIbCAPITAL_LETTER_KHEIbSMALL_LETTER_KHEIbCAPITAL_LETTER_HORI
    bSMALL_LETTER_HORIbCAPITAL_LETTER_GANGIAbSMALL_LETTER_GANGIAbCAPITAL_LETTER_SHIMAbSMALL_LETTER_SHIMA
    bCAPITAL_LETTER_DEIbSMALL_LETTER_DEIaGREEK_KAPPA_SYMBOLbRHO_SYMBOLbLUNATE_SIGMA_SYMBOLbLETTER_YOT
    bCAPITAL_THETA_SYMBOLbLUNATE_EPSILON_SYMBOLbREVERSED_LUNATE_EPSILON_SYMBOLbCAPITAL_LETTER_SHObSMALL_LETTER_SHO
    bCAPITAL_LUNATE_SIGMA_SYMBOLcLETTER_SANbSMALL_LETTER_SANbRHO_WITH_STROKE_SYMBOL
    bCAPITAL_REVERSED_LUNATE_SIGMA_SYMBOLcDOTTED_LUNATE_SIGMA_SYMBOLcREVERSED_DOTTED_LUNATE_SIGMA_SYMBOL
    aCYRILLIC_CAPITAL_LETTER_IE_WITH_GRAVEdIOdDJEdGJEdUKRAINIAN_IEdDZEdBYELORUSSIAN-UKRAINIAN_IdYIdJEdLJEdNJEdTSHE
    dKJEdI_WITH_GRAVEdSHORT_UdDZHEdAdBEdVEdGHEdDEdIEdZHEdZEdIdSHORT_IdKAdELdEMdENdOdPEdERdESdTEdUdEFdHAdTSEdCHEdSHA
    dSHCHAdHARD_SIGNdYERUdSOFT_SIGNdEdYUdYAbSMALL_LETTER_AdBEdVEdGHEdDEdIEdZHEdZEdIdSHORT_IdKAdELdEMdENdOdPEdERdES
    dTEdUdEFdHAdTSEdCHEdSHAdSHCHAdHARD_SIGNdYERUdSOFT_SIGNdEdYUdYAdIE_WITH_GRAVEdIOdDJEdGJEdUKRAINIAN_IEdDZE
    dBYELORUSSIAN-UKRAINIAN_IdYIdJEdLJEdNJEdTSHEdKJEdI_WITH_GRAVEdSHORT_UdDZHEbCAPITAL_LETTER_OMEGA
    bSMALL_LETTER_OMEGAbCAPITAL_LETTER_YATbSMALL_LETTER_YATbCAPITAL_LETTER_IOTIFIED_EbSMALL_LETTER_IOTIFIED_E
    bCAPITAL_LETTER_LITTLE_YUSbSMALL_LETTER_LITTLE_YUSbCAPITAL_LETTER_IOTIFIED_LITTLE_YUS
    bSMALL_LETTER_IOTIFIED_LITTLE_YUSbCAPITAL_LETTER_BIG_YUSbSMALL_LETTER_BIG_YUSbCAPITAL_LETTER_IOTIFIED_BIG_YUS
    bSMALL_LETTER_IOTIFIED_BIG_YUSbCAPITAL_LETTER_KSIbSMALL_LETTER_KSIbCAPITAL_LETTER_PSIbSMALL_LETTER_PSI
    bCAPITAL_LETTER_FITAbSMALL_LETTER_FITAbCAPITAL_LETTER_IZHITSAbSMALL_LETTER_IZHITSA
    bCAPITAL_LETTER_IZHITSA_WITH_DOUBLE_GRAVE_ACCENTbSMALL_LETTER_IZHITSA_WITH_DOUBLE_GRAVE_ACCENTbCAPITAL_LETTER_UK
    bSMALL_LETTER_UKbCAPITAL_LETTER_ROUND_OMEGAbSMALL_LETTER_ROUND_OMEGAbCAPITAL_LETTER_OMEGA_WITH_TITLO
    bSMALL_LETTER_OMEGA_WITH_TITLObCAPITAL_LETTER_OTbSMALL_LETTER_OTbCAPITAL_LETTER_KOPPAbSMALL_LETTER_KOPPA
    bTHOUSANDS_SIGNaCOMBINING_CYRILLIC_TITLOcPALATALIZATIONcDASIA_PNEUMATAcPSILI_PNEUMATAcPOKRYTIE
    cHUNDRED_THOUSANDS_SIGNcMILLIONS_SIGNaCYRILLIC_CAPITAL_LETTER_SHORT_I_WITH_TAILbSMALL_LETTER_SHORT_I_WITH_TAIL
    bCAPITAL_LETTER_SEMISOFT_SIGNbSMALL_LETTER_SEMISOFT_SIGNbCAPITAL_LETTER_ER_WITH_TICKbSMALL_LETTER_ER_WITH_TICK
    bCAPITAL_LETTER_GHE_WITH_UPTURNbSMALL_LETTER_GHE_WITH_UPTURNbCAPITAL_LETTER_GHE_WITH_STROKE
    bSMALL_LETTER_GHE_WITH_STROKEbCAPITAL_LETTER_GHE_WITH_MIDDLE_HOOKbSMALL_LETTER_GHE_WITH_MIDDLE_HOOK
    bCAPITAL_LETTER_ZHE_WITH_DESCENDERbSMALL_LETTER_ZHE_WITH_DESCENDERbCAPITAL_LETTER_ZE_WITH_DESCENDER
    bSMALL_LETTER_ZE_WITH_DESCENDERbCAPITAL_LETTER_KA_WITH_DESCENDERbSMALL_LETTER_KA_WITH_DESCENDER
    bCAPITAL_LETTER_KA_WITH_VERTICAL_STROKEbSMALL_LETTER_KA_WITH_VERTICAL_STROKEbCAPITAL_LETTER_KA_WITH_STROKE
    bSMALL_LETTER_KA_WITH_STROKEbCAPITAL_LETTER_BASHKIR_KAbSMALL_LETTER_BASHKIR_KAbCAPITAL_LETTER_EN_WITH_DESCENDER
    bSMALL_LETTER_EN_WITH_DESCENDERbCAPITAL_LIGATURE_EN_GHEbSMALL_LIGATURE_EN_GHEbCAPITAL_LETTER_PE_WITH_MIDDLE_HOOK
    bSMALL_LETTER_PE_WITH_MIDDLE_HOOKbCAPITAL_LETTER_ABKHASIAN_HAbSMALL_LETTER_ABKHASIAN_HA
    bCAPITAL_LETTER_ES_WITH_DESCENDERbSMALL_LETTER_ES_WITH_DESCENDERbCAPITAL_LETTER_TE_WITH_DESCENDER
    bSMALL_LETTER_TE_WITH_DESCENDERbCAPITAL_LETTER_STRAIGHT_UbSMALL_LETTER_STRAIGHT_U
    bCAPITAL_LETTER_STRAIGHT_U_WITH_STROKEbSMALL_LETTER_STRAIGHT_U_WITH_STROKEbCAPITAL_LETTER_HA_WITH_DESCENDER
    bSMALL_LETTER_HA_WITH_DESCENDERbCAPITAL_LIGATURE_TE_TSEbSMALL_LIGATURE_TE_TSEbCAPITAL_LETTER_CHE_WITH_DESCENDER
    bSMALL_LETTER_CHE_WITH_DESCENDERbCAPITAL_LETTER_CHE_WITH_VERTICAL_STROKEbSMALL_LETTER_CHE_WITH_VERTICAL_STROKE
    bCAPITAL_LETTER_SHHAbSMALL_LETTER_SHHAbCAPITAL_LETTER_ABKHASIAN_CHEbSMALL_LETTER_ABKHASIAN_CHE
    bCAPITAL_LETTER_ABKHASIAN_CHE_WITH_DESCENDERbSMALL_LETTER_ABKHASIAN_CHE_WITH_DESCENDERbLETTER_PALOCHKA
    bCAPITAL_LETTER_ZHE_WITH_BREVEbSMALL_LETTER_ZHE_WITH_BREVEbCAPITAL_LETTER_KA_WITH_HOOKbSMALL_LETTER_KA_WITH_HOOK
    bCAPITAL_LETTER_EL_WITH_TAILbSMALL_LETTER_EL_WITH_TAILbCAPITAL_LETTER_EN_WITH_HOOKbSMALL_LETTER_EN_WITH_HOOK
    bCAPITAL_LETTER_EN_WITH_TAILbSMALL_LETTER_EN_WITH_TAILbCAPITAL_LETTER_KHAKASSIAN_CHEbSMALL_LETTER_KHAKASSIAN_CHE
    bCAPITAL_LETTER_EM_WITH_TAILbSMALL_LETTER_EM_WITH_TAILdPALOCHKAbCAPITAL_LETTER_A_WITH_BREVE
    bSMALL_LETTER_A_WITH_BREVEbCAPITAL_LETTER_A_WITH_DIAERESISbSMALL_LETTER_A_WITH_DIAERESISbCAPITAL_LIGATURE_A_IE
    bSMALL_LIGATURE_A_IEbCAPITAL_LETTER_IE_WITH_BREVEbSMALL_LETTER_IE_WITH_BREVEbCAPITAL_LETTER_SCHWA
    bSMALL_LETTER_SCHWAbCAPITAL_LETTER_SCHWA_WITH_DIAERESISbSMALL_LETTER_SCHWA_WITH_DIAERESIS
    bCAPITAL_LETTER_ZHE_WITH_DIAERESISbSMALL_LETTER_ZHE_WITH_DIAERESISbCAPITAL_LETTER_ZE_WITH_DIAERESIS
    bSMALL_LETTER_ZE_WITH_DIAERESISbCAPITAL_LETTER_ABKHASIAN_DZEbSMALL_LETTER_ABKHASIAN_DZE
    bCAPITAL_LETTER_I_WITH_MACRONbSMALL_LETTER_I_WITH_MACRONbCAPITAL_LETTER_I_WITH_DIAERESIS
    bSMALL_LETTER_I_WITH_DIAERESISbCAPITAL_LETTER_O_WITH_DIAERESISbSMALL_LETTER_O_WITH_DIAERESIS
    bCAPITAL_LETTER_BARRED_ObSMALL_LETTER_BARRED_ObCAPITAL_LETTER_BARRED_O_WITH_DIAERESIS
    bSMALL_LETTER_BARRED_O_WITH_DIAERESISbCAPITAL_LETTER_E_WITH_DIAERESISbSMALL_LETTER_E_WITH_DIAERESIS
    bCAPITAL_LETTER_U_WITH_MACRONbSMALL_LETTER_U_WITH_MACRONbCAPITAL_LETTER_U_WITH_DIAERESIS
    bSMALL_LETTER_U_WITH_DIAERESISbCAPITAL_LETTER_U_WITH_DOUBLE_ACUTEbSMALL_LETTER_U_WITH_DOUBLE_ACUTE
    bCAPITAL_LETTER_CHE_WITH_DIAERESISbSMALL_LETTER_CHE_WITH_DIAERESISbCAPITAL_LETTER_GHE_WITH_DESCENDER
    bSMALL_LETTER_GHE_WITH_DESCENDERbCAPITAL_LETTER_YERU_WITH_DIAERESISbSMALL_LETTER_YERU_WITH_DIAERESIS
    bCAPITAL_LETTER_GHE_WITH_STROKE_AND_HOOKbSMALL_LETTER_GHE_WITH_STROKE_AND_HOOKbCAPITAL_LETTER_HA_WITH_HOOK
    bSMALL_LETTER_HA_WITH_HOOKbCAPITAL_LETTER_HA_WITH_STROKEbSMALL_LETTER_HA_WITH_STROKEbCAPITAL_LETTER_KOMI_DE
    bSMALL_LETTER_KOMI_DEbCAPITAL_LETTER_KOMI_DJEbSMALL_LETTER_KOMI_DJEbCAPITAL_LETTER_KOMI_ZJE
    bSMALL_LETTER_KOMI_ZJEbCAPITAL_LETTER_KOMI_DZJEbSMALL_LETTER_KOMI_DZJEbCAPITAL_LETTER_KOMI_LJE
    bSMALL_LETTER_KOMI_LJEbCAPITAL_LETTER_KOMI_NJEbSMALL_LETTER_KOMI_NJEbCAPITAL_LETTER_KOMI_SJE
    bSMALL_LETTER_KOMI_SJEbCAPITAL_LETTER_KOMI_TJEbSMALL_LETTER_KOMI_TJEbCAPITAL_LETTER_REVERSED_ZE
    bSMALL_LETTER_REVERSED_ZEbCAPITAL_LETTER_EL_WITH_HOOKbSMALL_LETTER_EL_WITH_HOOKbCAPITAL_LETTER_LHA
    bSMALL_LETTER_LHAbCAPITAL_LETTER_RHAbSMALL_LETTER_RHAbCAPITAL_LETTER_YAEbSMALL_LETTER_YAEbCAPITAL_LETTER_QA
    bSMALL_LETTER_QAbCAPITAL_LETTER_WEbSMALL_LETTER_WEbCAPITAL_LETTER_ALEUT_KAbSMALL_LETTER_ALEUT_KA
    bCAPITAL_LETTER_EL_WITH_MIDDLE_HOOKbSMALL_LETTER_EL_WITH_MIDDLE_HOOKbCAPITAL_LETTER_EN_WITH_MIDDLE_HOOK
    bSMALL_LETTER_EN_WITH_MIDDLE_HOOKbCAPITAL_LETTER_PE_WITH_DESCENDERbSMALL_LETTER_PE_WITH_DESCENDER
    bCAPITAL_LETTER_SHHA_WITH_DESCENDERbSMALL_LETTER_SHHA_WITH_DESCENDERbCAPITAL_LETTER_EN_WITH_LEFT_HOOK
    bSMALL_LETTER_EN_WITH_LEFT_HOOKbCAPITAL_LETTER_DZZHEbSMALL_LETTER_DZZHEbCAPITAL_LETTER_DCHEbSMALL_LETTER_DCHE
    bCAPITAL_LETTER_EL_WITH_DESCENDERbSMALL_LETTER_EL_WITH_DESCENDER:531aARMENIAN_CAPITAL_LETTER_AYBdBENdGIMdDAdECH
    dZAdEHdETdTOdZHEdINIdLIWNdXEHdCAdKENdHOdJAdGHADdCHEHdMENdYIdNOWdSHAdVOdCHAdPEHdJHEHdRAdSEHdVEWdTIWNdREHdCOdYIWN
    dPIWRdKEHdOHdFEH:559bMODIFIER_LETTER_LEFT_HALF_RINGbAPOSTROPHEbEMPHASIS_MARKbEXCLAMATION_MARKbCOMMA
    bQUESTION_MARKbABBREVIATION_MARKbSMALL_LETTER_TURNED_AYBdAYBdBENdGIMdDAdECHdZAdEHdETdTOdZHEdINIdLIWNdXEHdCAdKEN
    dHOdJAdGHADdCHEHdMENdYIdNOWdSHAdVOdCHAdPEHdJHEHdRAdSEHdVEWdTIWNdREHdCOdYIWNdPIWRdKEHdOHdFEHcLIGATURE_ECH_YIWN
    cLETTER_YI_WITH_STROKEbFULL_STOPbHYPHEN:58DaRIGHT-FACING_ARMENIAN_ETERNITY_SIGN
    aLEFT-FACING_ARMENIAN_ETERNITY_SIGNaARMENIAN_DRAM_SIGN:591aHEBREW_ACCENT_ETNAHTAcSEGOLcSHALSHELETcZAQEF_QATAN
    dGADOLcTIPEHAcREVIAcZARQAcPASHTAcYETIVcTEVIRcGERESHdMUQDAMcGERSHAYIMcQARNEY_PARAcTELISHA_GEDOLAcPAZER
    cATNAH_HAFUKHcMUNAHcMAHAPAKHcMERKHAdKEFULAcDARGAcQADMAcTELISHA_QETANAcYERAH_BEN_YOMOcOLEcILUYcDEHIcZINOR
    bMARK_MASORA_CIRCLEbPOINT_SHEVAcHATAF_SEGOLdPATAHdQAMATScHIRIQcTSEREcSEGOLcPATAHcQAMATScHOLAMdHASER_FOR_VAV
    cQUBUTScDAGESH_OR_MAPIQcMETEGbPUNCTUATION_MAQAFbPOINT_RAFEbPUNCTUATION_PASEQbPOINT_SHIN_DOTcSIN_DOT
    bPUNCTUATION_SOF_PASUQbMARK_UPPER_DOTcLOWER_DOTbPUNCTUATION_NUN_HAFUKHAbPOINT_QAMATS_QATAN:5D0bLETTER_ALEFcBET
    cGIMELcDALETcHEcVAVcZAYINcHETcTETcYODcFINAL_KAFcKAFcLAMEDcFINAL_MEMcMEMcFINAL_NUNcNUNcSAMEKHcAYINcFINAL_PEcPE
    cFINAL_TSADIcTSADIcQOFcRESHcSHINcTAV:5EFbYOD_TRIANGLEbLIGATURE_YIDDISH_DOUBLE_VAVdVAV_YODdDOUBLE_YOD
    bPUNCTUATION_GERESHcGERSHAYIM:600aARABIC_NUMBER_SIGNbSIGN_SANAHbFOOTNOTE_MARKERbSIGN_SAFHAcSAMVAT
    bNUMBER_MARK_ABOVEaARABIC-INDIC_CUBE_ROOTbFOURTH_ROOTaARABIC_RAYaARABIC-INDIC_PER_MILLE_SIGNcTEN_THOUSAND_SIGN
    aAFGHANI_SIGNaARABIC_COMMAbDATE_SEPARATORbPOETIC_VERSE_SIGNbSIGN_MISRAcSALLALLAHOU_ALAYHE_WASSALLAM
    cALAYHE_ASSALLAMcRAHMATULLAH_ALAYHEcRADI_ALLAHOU_ANHUcTAKHALLUSbSMALL_HIGH_TAHdLIGATURE_ALEF_WITH_LAM_WITH_YEH
    dZAINcFATHAcDAMMAcKASRAbSEMICOLONbLETTER_MARKbEND_OF_TEXT_MARKbTRIPLE_DOT_PUNCTUATION_MARKbQUESTION_MARK
    bLETTER_KASHMIRI_YEHcHAMZAcALEF_WITH_MADDA_ABOVEeHAMZA_ABOVEcWAW_WITH_HAMZA_ABOVEcALEF_WITH_HAMZA_BELOW
    cYEH_WITH_HAMZA_ABOVEcALEFcBEHcTEH_MARBUTAcTEHcTHEHcJEEMcHAHcKHAHcDALcTHALcREHcZAINcSEENcSHEENcSADcDADcTAHcZAH
    cAINcGHAINcKEHEH_WITH_TWO_DOTS_ABOVEeTHREE_DOTS_BELOWcFARSI_YEH_WITH_INVERTED_VfTWO_DOTS_ABOVEfTHREE_DOTS_ABOVE
    bTATWEELbLETTER_FEHcQAFcKAFcLAMcMEEMcNOONcHEHcWAWcALEF_MAKSURAcYEHbFATHATANbDAMMATANbKASRATANbFATHAbDAMMAbKASRA
    bSHADDAbSUKUNbMADDAH_ABOVEbHAMZA_ABOVEcBELOWbSUBSCRIPT_ALEFbINVERTED_DAMMAbMARK_NOON_GHUNNAbZWARAKAY
    bVOWEL_SIGN_SMALL_V_ABOVEdINVERTED_SMALL_V_ABOVEdDOT_BELOWbREVERSED_DAMMAbFATHA_WITH_TWO_DOTSbWAVY_HAMZA_BELOW
    aARABIC-INDIC_DIGIT_ZEROcONEcTWOcTHREEcFOURcFIVEcSIXcSEVENcEIGHTcNINEaARABIC_PERCENT_SIGNbDECIMAL_SEPARATOR
    bTHOUSANDS_SEPARATORbFIVE_POINTED_STARbLETTER_DOTLESS_BEHdQAFcSUPERSCRIPT_ALEFcALEF_WASLAdWITH_WAVY_HAMZA_ABOVE
    gBELOWcHIGH_HAMZAeALEFeWAWcU_WITH_HAMZA_ABOVEcHIGH_HAMZA_YEHcTTEHcTTEHEHcBEEHcTEH_WITH_RING
    eTHREE_DOTS_ABOVE_DOWNWARDScPEHcTEHEHcBEHEHcHAH_WITH_HAMZA_ABOVEeTWO_DOTS_VERTICAL_ABOVEcNYEHcDYEH
    cHAH_WITH_THREE_DOTS_ABOVEcTCHEHcTCHEHEHcDDALcDAL_WITH_RINGeDOT_BELOWgAND_SMALL_TAHcDAHALcDDAHALcDUL
    cDAL_WITH_THREE_DOTS_ABOVE_DOWNWARDSeFOUR_DOTS_ABOVEcRREHcREH_WITH_SMALL_VeRINGeDOT_BELOWeSMALL_V_BELOW
    eDOT_BELOW_AND_DOT_ABOVEeTWO_DOTS_ABOVEcJEHcREH_WITH_FOUR_DOTS_ABOVEcSEEN_WITH_DOT_BELOW_AND_DOT_ABOVE
    eTHREE_DOTS_BELOWhAND_THREE_DOTS_ABOVEcSAD_WITH_TWO_DOTS_BELOWeTHREE_DOTS_ABOVEcTAH_WITH_THREE_DOTS_ABOVE
    cAIN_WITH_THREE_DOTS_ABOVEcDOTLESS_FEHcFEH_WITH_DOT_MOVED_BELOWfBELOWcVEHcFEH_WITH_THREE_DOTS_BELOWcPEHEH
    cQAF_WITH_DOT_ABOVEeTHREE_DOTS_ABOVEcKEHEHcSWASH_KAFcKAF_WITH_RINGeDOT_ABOVEcNGcKAF_WITH_THREE_DOTS_BELOWcGAF
    dWITH_RINGcNGOEHcGAF_WITH_TWO_DOTS_BELOWcGUEHcGAF_WITH_THREE_DOTS_ABOVEcLAM_WITH_SMALL_VeDOT_ABOVE
    eTHREE_DOTS_ABOVEgBELOWcNOON_WITH_DOT_BELOWdGHUNNAcRNOONcNOON_WITH_RINGeTHREE_DOTS_ABOVEcHEH_DOACHASHMEE
    cTCHEH_WITH_DOT_ABOVEcHEH_WITH_YEH_ABOVEdGOALeWITH_HAMZA_ABOVEcTEH_MARBUTA_GOALcWAW_WITH_RINGcKIRGHIZ_OEcOEcUcYU
    cKIRGHIZ_YUcWAW_WITH_TWO_DOTS_ABOVEcVEcFARSI_YEHcYEH_WITH_TAILeSMALL_VcWAW_WITH_DOT_ABOVEcE
    cYEH_WITH_THREE_DOTS_BELOWdBARREEeWITH_HAMZA_ABOVEbFULL_STOPbLETTER_AE
    bSMALL_HIGH_LIGATURE_SAD_WITH_LAM_WITH_ALEF_MAKSURAeQAF_WITH_LAM_WITH_ALEF_MAKSURAdMEEM_INITIAL_FORMdLAM_ALEF
    dJEEMdTHREE_DOTSdSEENbEND_OF_AYAHbSTART_OF_RUB_EL_HIZBbSMALL_HIGH_ROUNDED_ZEROdUPRIGHT_RECTANGULAR_ZERO
    dDOTLESS_HEAD_OF_KHAHdMEEM_ISOLATED_FORMcLOW_SEENcHIGH_MADDAcWAWcYEHcHIGH_YEHdNOONbPLACE_OF_SAJDAH
    bEMPTY_CENTRE_LOW_STOPdHIGH_STOPbROUNDED_HIGH_STOP_WITH_FILLED_CENTREbSMALL_LOW_MEEMbLETTER_DAL_WITH_INVERTED_V
    cREH_WITH_INVERTED_VaEXTENDED_ARABIC-INDIC_DIGIT_ZEROdONEdTWOdTHREEdFOURdFIVEdSIXdSEVENdEIGHTdNINE
    aARABIC_LETTER_SHEEN_WITH_DOT_BELOWcDAD_WITH_DOT_BELOWcGHAIN_WITH_DOT_BELOWbSIGN_SINDHI_AMPERSAND
    dPOSTPOSITION_MENbLETTER_HEH_WITH_INVERTED_VaSYRIAC_END_OF_PARAGRAPHbSUPRALINEAR_FULL_STOPbSUBLINEAR_FULL_STOP
    bSUPRALINEAR_COLONbSUBLINEAR_COLONbHORIZONTAL_COLONbCOLON_SKEWED_LEFTdRIGHTbSUPRALINEAR_COLON_SKEWED_LEFT
    bSUBLINEAR_COLON_SKEWED_RIGHTbCONTRACTIONbHARKLEAN_OBELUScMETOBELUScASTERISCUS:70FbABBREVIATION_MARK
    bLETTER_ALAPHcSUPERSCRIPT_ALAPHcBETHcGAMALdGARSHUNIcDALATHcDOTLESS_DALATH_RISHcHEcWAWcZAINcHETHcTETHdGARSHUNI
    cYUDHdHEcKAPHcLAMADHcMIMcNUNcSEMKATHcFINAL_SEMKATHcEcPEcREVERSED_PEcSADHEcQAPHcRISHcSHINcTAWcPERSIAN_BHETH
    dGHAMALdDHALATHbPTHAHA_ABOVEcBELOWcDOTTEDbZQAPHA_ABOVEcBELOWcDOTTEDbRBASA_ABOVEcBELOWbDOTTED_ZLAMA_HORIZONTAL
    dANGULARbHBASA_ABOVEcBELOWbHBASA-ESASA_DOTTEDbESASA_ABOVEcBELOWbRWAHAbFEMININE_DOTbQUSHSHAYAbRUKKAKHA
    bTWO_VERTICAL_DOTS_ABOVEeBELOWbTHREE_DOTS_ABOVEdBELOWbOBLIQUE_LINE_ABOVEdBELOWbMUSICbBARREKH
    :74DbLETTER_SOGDIAN_ZHAINdKHAPHdFEaARABIC_LETTER_BEH_WITH_THREE_DOTS_HORIZONTALLY_BELOW
    eDOT_BELOW_AND_THREE_DOTS_ABOVEeTHREE_DOTS_POINTING_UPWARDS_BELOWjAND_TWO_DOTS_ABOVE
    eTWO_DOTS_BELOW_AND_DOT_ABOVEeINVERTED_SMALL_V_BELOWeSMALL_VcHAH_WITH_TWO_DOTS_ABOVE
    eTHREE_DOTS_POINTING_UPWARDS_BELOWcDAL_WITH_TWO_DOTS_VERTICALLY_BELOW_AND_SMALL_TAHeINVERTED_SMALL_V_BELOW
    cREH_WITH_STROKEcSEEN_WITH_FOUR_DOTS_ABOVEcAIN_WITH_TWO_DOTS_ABOVEeTHREE_DOTS_POINTING_DOWNWARDS_ABOVE
    eTWO_DOTS_VERTICALLY_ABOVEcFEH_WITH_TWO_DOTS_BELOWeTHREE_DOTS_POINTING_UPWARDS_BELOWcKEHEH_WITH_DOT_ABOVE
    eTHREE_DOTS_ABOVEgPOINTING_UPWARDS_BELOWcMEEM_WITH_DOT_ABOVEfBELOWcNOON_WITH_TWO_DOTS_BELOWeSMALL_TAHfV
    cLAM_WITH_BARcREH_WITH_TWO_DOTS_VERTICALLY_ABOVEeHAMZA_ABOVEcSEEN_WITH_TWO_DOTS_VERTICALLY_ABOVE
    cHAH_WITH_SMALL_ARABIC_LETTER_TAH_BELOWiAND_TWO_DOTScSEEN_WITH_SMALL_ARABIC_LETTER_TAH_AND_TWO_DOTS
    cREH_WITH_SMALL_ARABIC_LETTER_TAH_AND_TWO_DOTScHAH_WITH_SMALL_ARABIC_LETTER_TAH_ABOVE
    cALEF_WITH_EXTENDED_ARABIC-INDIC_DIGIT_TWO_ABOVEhTHREE_ABOVE
    cFARSI_YEH_WITH_EXTENDED_ARABIC-INDIC_DIGIT_TWO_ABOVEiTHREE_ABOVEiFOUR_BELOW
    cWAW_WITH_EXTENDED_ARABIC-INDIC_DIGIT_TWO_ABOVEhTHREE_ABOVE
    cYEH_BARREE_WITH_EXTENDED_ARABIC-INDIC_DIGIT_TWO_ABOVEiTHREE_ABOVE
    cHAH_WITH_EXTENDED_ARABIC-INDIC_DIGIT_FOUR_BELOWcSEEN_WITH_EXTENDED_ARABIC-INDIC_DIGIT_FOUR_ABOVEeINVERTED_V
    cKAF_WITH_TWO_DOTS_ABOVEaTHAANA_LETTER_HAAcSHAVIYANIcNOONUcRAAcBAAcLHAVIYANIcKAAFUcALIFUcVAAVUcMEEMUcFAAFU
    cDHAALUcTHAAcLAAMUcGAAFUcGNAVIYANIcSEENUcDAVIYANIcZAVIYANIcTAVIYANIcYAAcPAVIYANIcJAVIYANIcCHAVIYANIcTTAAcHHAA
    cKHAAcTHAALUcZAAcSHEENUcSAADHUcDAADHUcTOcZOcAINUcGHAINUcQAAFUcWAAVUbABAFILIbAABAAFILIbIBIFILIbEEBEEFILIbUBUFILI
    bOOBOOFILIbEBEFILIbEYBEYFILIbOBOFILIbOABOAFILIbSUKUNbLETTER_NAA:7C0aNKO_DIGIT_ZEROcONEcTWOcTHREEcFOURcFIVEcSIX
    cSEVENcEIGHTcNINEbLETTER_AcEEcIcEcUcOOcOcDAGBASINNAcNcBAcPAcTAcJAcCHAcDAcRAcRRAcSAcGBAcFAcKAcLAcNA_WOLOSOcMAcNYA
    cNAcHAcWAcYAcNYA_WOLOSOcJONA_JAdCHAdRAbCOMBINING_SHORT_HIGH_TONEdLOW_TONEdRISING_TONEcLONG_DESCENDING_TONE
    dHIGH_TONEdLOW_TONEdRISING_TONEcNASALIZATION_MARKcDOUBLE_DOT_ABOVEbHIGH_TONE_APOSTROPHEbLOW_TONE_APOSTROPHE
    bSYMBOL_OO_DENNENcGBAKURUNENbCOMMAbEXCLAMATION_MARKbLAJANYALAN:7FDbDANTAYALANbDOROME_SIGNbTAMAN_SIGN"

end NullContract.CharName
